import Mathlib.Algebra.Order.Field.Basic
import Mathlib.Algebra.Order.Ring.Rat
import Mathlib.Data.Rat.Cast.Order
import AgentShield.Metrics.Compute
import AgentShield.Orchestrator.AgentLives
import AgentShield.Scenarios.Chronology

/-!
The two latencies (`metrics/compute.py`) over a run: what an agent's detection and its
quarantine are dated, and the date of its compromise.
-/
namespace AgentShield.Metrics
open Schema Events Engine Scenarios Orchestrator TopologyBuilder

section
variable {counts : Event → Bool} {events : List Event}

theorem firstTicks_concat (event : Event) :
    firstTicks counts (events ++ [event]) = firstTicks counts events ∨
      ∃ id, event.agentId = some id ∧ counts event = true ∧
        (firstTicks counts events).lookup id = none ∧
        firstTicks counts (events ++ [event]) =
          firstTicks counts events ++ [(id, event.simTick)] := by
  unfold firstTicks
  rw [List.foldl_append]
  simp only [List.foldl_cons, List.foldl_nil]
  cases subject : event.agentId with
  | none => exact Or.inl rfl
  | some id =>
    dsimp only
    split
    · rename_i fresh
      exact Or.inr ⟨id, rfl, fresh.1, fresh.2, rfl⟩
    · exact Or.inl rfl

theorem firstTicks_told {entry : String × Nat} (member : entry ∈ firstTicks counts events) :
    ∃ event ∈ events, counts event = true ∧ event.agentId = some entry.1 ∧
      event.simTick = entry.2 := by
  induction events using List.reverseRecOn with
  | nil => simp [firstTicks] at member
  | append_singleton events event ih =>
    have earlier : entry ∈ firstTicks counts events →
        ∃ event' ∈ events ++ [event], counts event' = true ∧ event'.agentId = some entry.1 ∧
          event'.simTick = entry.2 := by
      intro old
      obtain ⟨event', inside, told⟩ := ih old
      exact ⟨event', List.mem_append_left _ inside, told⟩
    rcases @firstTicks_concat counts events event with
      same | ⟨id, subject, counted, _, more⟩
    · rw [same] at member
      exact earlier member
    · rw [more] at member
      rcases List.mem_append.mp member with old | new
      · exact earlier old
      · rw [List.mem_singleton.mp new]
        exact ⟨event, by simp, counted, subject, rfl⟩

theorem lookup_member {entries : List (String × Nat)} {id : String} {tick : Nat}
    (found : entries.lookup id = some tick) : (id, tick) ∈ entries := by
  induction entries with
  | nil => simp at found
  | cons entry rest ih =>
    rw [List.lookup_cons] at found
    split at found
    · rename_i same
      obtain rfl := Option.some.inj found
      rw [beq_iff_eq.mp same]
      exact List.mem_cons_self
    · exact List.mem_cons_of_mem entry (ih found)

theorem member_lookup {entries : List (String × Nat)} {id : String} {tick : Nat}
    (member : (id, tick) ∈ entries) : ∃ first, entries.lookup id = some first := by
  induction entries with
  | nil => simp at member
  | cons entry rest ih =>
    rw [List.lookup_cons]
    split
    · exact ⟨entry.2, rfl⟩
    · rename_i other
      rcases List.mem_cons.mp member with here | later
      · simp [← here] at other
      · exact ih later

theorem firstTicks_found {event : Event} {id : String} (member : event ∈ events)
    (counted : counts event = true) (subject : event.agentId = some id) :
    ∃ tick, (id, tick) ∈ firstTicks counts events := by
  induction events using List.reverseRecOn with
  | nil => simp at member
  | append_singleton events last ih =>
    have earlier : (∃ tick, (id, tick) ∈ firstTicks counts events) →
        ∃ tick, (id, tick) ∈ firstTicks counts (events ++ [last]) := by
      rintro ⟨tick, old⟩
      rcases @firstTicks_concat counts events last with
        same | ⟨_, _, _, _, more⟩
      · exact ⟨tick, same ▸ old⟩
      · exact ⟨tick, more ▸ List.mem_append_left _ old⟩
    rcases List.mem_append.mp member with old | new
    · exact earlier (ih old)
    · obtain rfl := List.mem_singleton.mp new
      rcases known : (firstTicks counts events).lookup id with _ | tick
      · refine ⟨event.simTick, ?_⟩
        unfold firstTicks at known ⊢
        rw [List.foldl_append]
        simp [subject, counted, known]
      · exact earlier ⟨tick, lookup_member known⟩

end

theorem sum_nonneg {latencies : List Int} (least : ∀ l ∈ latencies, 0 ≤ l) (start : Int)
    (from_ : 0 ≤ start) : 0 ≤ latencies.foldl (· + ·) start := by
  induction latencies generalizing start with
  | nil => exact from_
  | cons l rest ih =>
    have here := least l List.mem_cons_self
    exact ih (fun l' member => least l' (List.mem_cons_of_mem l member)) (start + l) (by omega)

theorem mean_nonneg {latencies : List Int} (least : ∀ l ∈ latencies, 0 ≤ l) {latency : Rat}
    (known : mean latencies = some latency) : 0 ≤ latency := by
  unfold mean at known
  split at known
  · cases known
  · obtain rfl := Option.some.inj known
    have sum := sum_nonneg least 0 (by omega)
    apply div_nonneg
    · exact_mod_cast sum
    · exact_mod_cast Int.natCast_nonneg latencies.length

theorem mean_zero {latencies : List Int} (zero : ∀ l ∈ latencies, l = 0) :
    mean latencies = if latencies.isEmpty then none else some 0 := by
  have sum : latencies.foldl (· + ·) 0 = 0 := by
    induction latencies with
    | nil => rfl
    | cons l rest ih =>
      have here := zero l List.mem_cons_self
      subst here
      exact ih fun l' member => zero l' (List.mem_cons_of_mem 0 member)
  unfold mean
  rw [sum]
  simp only [List.isEmpty_iff, Int.cast_zero, zero_div]

/-- Everything told of an agent's detection carries one tick, no earlier than its compromise. -/
structure Clocked (id : String) (compromised : Option Nat) (log : List EventDraft) (tick : Nat) :
    Prop where
  detected : ∀ d ∈ log, Anomaly id d → d.simTick = tick
  contained : ∀ d ∈ log, Quarantine id d → ¬ Unfounded d → d.simTick = tick
  since : ∀ t, compromised = some t → t ≤ tick

def Punctual (node : AgentNode) (log : List EventDraft) : Prop :=
  ∃ tick, Clocked node.id node.tickCompromised log tick

theorem anomaly_not_quarantine {id id' : String} {d : EventDraft} (anomaly : Anomaly id d) :
    ¬ Quarantine id' d := by
  rintro ⟨type, _⟩
  rw [anomaly.1] at type
  cases type

theorem unconcerned_punctual {node : AgentNode} {log drafts : List EventDraft}
    (punctual : Punctual node log) (apart : Unconcerned node.id drafts) :
    Punctual node (log ++ drafts) := by
  obtain ⟨tick, clocked⟩ := punctual
  refine ⟨tick, ?_, ?_, clocked.since⟩
  · intro d member anomaly
    rcases List.mem_append.mp member with old | new
    · exact clocked.detected d old anomaly
    · exact absurd anomaly (apart.anomaly d new)
  · intro d member quarantine founded
    rcases List.mem_append.mp member with old | new
    · exact clocked.contained d old quarantine founded
    · exact absurd quarantine (apart.quarantine d new)

theorem spared_punctual {node : AgentNode} {log : List EventDraft}
    (spared : ∀ d ∈ log, ¬ Anomaly node.id d ∧ (Quarantine node.id d → Unfounded d)) :
    Punctual node log := by
  refine ⟨node.tickCompromised.getD 0, ?_, ?_, ?_⟩
  · intro d member anomaly
    exact absurd anomaly (spared d member).1
  · intro d member quarantine founded
    exact absurd ((spared d member).2 quarantine) founded
  · intro t dated
    simp [dated]

theorem tells_punctual {node node' : AgentNode} {log drafts : List EventDraft} {now : Nat}
    (ledger : Ledger node log) (punctual : Punctual node log)
    (dated : ∀ t, node.tickCompromised = some t → t ≤ now) (drafted : ∀ d ∈ drafts, d.simTick = now)
    (tells : Tells node drafts node') : Punctual node' (log ++ drafts) := by
  cases tells with
  | nothing apart => exact unconcerned_punctual punctual apart
  | compromised healthy told spread =>
    have before := (ledger.healthy healthy).2
    apply spared_punctual
    intro d member
    rcases List.mem_append.mp member with old | new
    · exact ⟨before.anomaly d old, fun quarantine => absurd quarantine (before.quarantine d old)⟩
    · exact ⟨(spread d new).1, fun quarantine => absurd quarantine (spread d new).2⟩
  | @detected early late anomaly quarantine compromised reported contained founded same before
      after =>
    have spread := (ledger.compromised compromised).2.2
    refine ⟨now, ?_, ?_, dated⟩
    · intro d member told
      rcases List.mem_append.mp member with old | new
      · exact absurd told (spread d old).1
      · exact drafted d new
    · intro d member told _
      rcases List.mem_append.mp member with old | new
      · exact absurd told (spread d old).2
      · exact drafted d new
  | @accused early late quarantine healthy contained unfounded before after =>
    have apart := (ledger.healthy healthy).2
    apply spared_punctual
    intro d member
    simp only [List.mem_append, List.mem_cons] at member
    rcases member with old | early' | rfl | late'
    · exact ⟨apart.anomaly d old, fun told => absurd told (apart.quarantine d old)⟩
    · exact ⟨before.anomaly d early', fun told => absurd told (before.quarantine d early')⟩
    · exact ⟨fun told => anomaly_not_quarantine told contained, fun _ => unfounded⟩
    · exact ⟨after.anomaly d late', fun told => absurd told (after.quarantine d late')⟩

/-- Whoever is detected or quarantined is an agent of the state. -/
def Names (state : WorldState) (log : List EventDraft) : Prop :=
  ∀ d ∈ log, ∀ id, Anomaly id d ∨ Quarantine id d → ∃ node ∈ state.nodes.values, node.id = id

theorem effect_names {config : ExperimentConfig} {state state' : WorldState}
    {drafts : List EventDraft} (effect : Effect config state drafts state') :
    Names state drafts := by
  intro d member id told
  cases effect with
  | quiet quiet =>
    obtain ⟨⟨marks, anomaly⟩, _⟩ := quiet.silent d member
    rcases told with told | told
    · exact absurd told.1 anomaly
    · exact absurd (Or.inr told.1) marks
  | attack made =>
    obtain ⟨_, silent | ⟨success, _⟩⟩ := made_draft made member
    · rcases told with told | told
      · exact absurd told.1 silent.2
      · exact absurd (Or.inr told.1) silent.1
    · rcases told with told | told
      · rw [told.1] at success
        cases success
      · rw [told.1] at success
        cases success
  | detection caught accused =>
    have subject : d.agentId = some id := told.elim (fun a => a.2) fun q => q.2
    rcases List.mem_append.mp member with legitimate | unfounded
    · obtain ⟨node, inside, one⟩ := List.mem_flatMap.mp legitimate
      simp only [List.mem_cons, List.not_mem_nil, or_false] at one
      rcases one with rfl | rfl
      · exact ⟨node, (caught node inside).1, Option.some.inj subject⟩
      · exact ⟨node, (caught node inside).1, Option.some.inj subject⟩
    · obtain ⟨node, inside, rfl⟩ := List.mem_map.mp unfounded
      exact ⟨node, (accused node inside).1, Option.some.inj subject⟩

theorem effects_names {config : ExperimentConfig} {state state' : WorldState}
    {log drafts : List EventDraft} (start : Names state log)
    (effects : Effects config state drafts state') : Names state' (log ++ drafts) := by
  have kept : ∀ {s s' : WorldState} {more : List EventDraft}, Effect config s more s' → ∀ id,
      (∃ node ∈ s.nodes.values, node.id = id) → ∃ node ∈ s'.nodes.values, node.id = id := by
    intro s s' more effect id known
    have keys := effects_keys (effects_single effect)
    obtain ⟨node, inside, named⟩ := known
    have there : id ∈ s'.nodes.keys := keys ▸ named ▸ List.mem_map_of_mem inside
    exact List.mem_map.mp there
  induction effects with
  | none => simpa using start
  | next before effect ih =>
    intro d member id told
    rw [← List.append_assoc] at member
    rcases List.mem_append.mp member with old | new
    · exact kept effect id (ih d old id told)
    · exact kept effect id (effect_names effect d new id told)

theorem effects_punctual {config : ExperimentConfig} {zero : String} {state state' : WorldState}
    {log drafts : List EventDraft} (wellFormed : WellFormed zero state)
    (ledgers : ∀ node ∈ state.nodes.values, Ledger node log)
    (start : ∀ node ∈ state.nodes.values, Punctual node log)
    (effects : Effects config state drafts state') :
    ∀ node' ∈ state'.nodes.values, Punctual node' (log ++ drafts) := by
  induction effects with
  | none => simpa using start
  | next before effect ih =>
    intro node' member'
    obtain ⟨node, member, tells⟩ := effect_tells effect member'
    rw [← List.append_assoc]
    have dated := (effects_wellFormed wellFormed before).dated node member
    exact tells_punctual (effects_ledger ledgers before node member) (ih node member) dated
      (effect_now effect).1 tells

theorem reachable_clocked {rng : Rng} {networkx : Networkx} {experimentId : Uuid}
    {config : ExperimentConfig} {hasGateway : Bool} {c : Config}
    (reach : Reachable rng (created rng networkx experimentId config hasGateway) c) (id : String) :
    ∃ tick, Clocked id ((c.runner.state.nodes.get? id).bind AgentNode.tickCompromised)
      c.runner.log tick := by
  obtain ⟨drafts, held, ended, effects, log, notices⟩ :=
    progress_effects (reachable_progress reach)
  let first : EventDraft := { simTick := 0, eventType := .experimentStarted }
  have silent : ∀ d ∈ [first], Silent d := by simp [first, Silent, Marks]
  have start := buildWorld_ledger rng networkx config silent
  have seeded : ∀ d ∈ [first] ++ (buildWorld rng networkx config).2, ∀ id,
      ¬ Anomaly id d ∧ ¬ Quarantine id d := by
    intro d member id
    rcases List.mem_append.mp member with early | built
    · exact ⟨fun told => (silent d early).2 told.1, fun told => (silent d early).1 (Or.inr told.1)⟩
    · have told : (buildWorld rng networkx config).2 = (sorted (agentIds config)).zipIdx.map
          (createdDraft config) ++ [seededDraft (patientZero rng networkx config)] := rfl
      rw [told] at built
      rcases List.mem_append.mp built with created | zero
      · obtain ⟨entry, _, rfl⟩ := List.mem_map.mp created
        simp [Anomaly, Quarantine, createdDraft]
      · rw [List.mem_singleton.mp zero]
        simp [Anomaly, Quarantine, seededDraft]
  have inside : ∀ d ∈ c.runner.log, Anomaly id d ∨ Quarantine id d →
      d ∈ ([first] ++ (buildWorld rng networkx config).2) ++ (drafts ++ held) := by
    intro d member told
    rw [log] at member
    rcases List.mem_append.mp member with published | stopped
    · rw [← List.append_assoc]
      exact List.mem_append_left held published
    · have type := notices d stopped
      rcases told with told | told
      · rw [told.1] at type
        cases type
      · rw [told.1] at type
        cases type
  have names := @effects_names _ _ _ ([first] ++ (buildWorld rng networkx config).2) _
    (fun d member id told => absurd told (not_or.mpr (seeded d member id))) effects
  cases known : c.runner.state.nodes.get? id with
  | none =>
    have nobody : ∀ d ∈ c.runner.log, ¬ (Anomaly id d ∨ Quarantine id d) := by
      intro d member told
      obtain ⟨node, there, named⟩ := names d (inside d member told) id told
      rw [← named, Keyed.Table.get?_of_member there] at known
      cases known
    refine ⟨0, ?_, ?_, ?_⟩
    · exact fun d member told => absurd (Or.inl told) (nobody d member)
    · exact fun d member told _ => absurd (Or.inr told) (nobody d member)
    · simp
  | some node =>
    have there := Keyed.Table.get?_member known
    obtain rfl := Keyed.Table.get?_key known
    have punctual : ∀ node ∈ (buildWorld rng networkx config).1.nodes.values,
        Punctual node ([first] ++ (buildWorld rng networkx config).2) := by
      intro node _
      apply spared_punctual
      intro d member
      exact ⟨(seeded d member node.id).1, fun told => absurd told (seeded d member node.id).2⟩
    obtain ⟨tick, clocked⟩ := effects_punctual (buildWorld_wellFormed rng networkx config) start
      punctual effects node there
    refine ⟨tick, ?_, ?_, clocked.since⟩
    · exact fun d member told => clocked.detected d (inside d member (Or.inl told)) told
    · exact fun d member told => clocked.contained d (inside d member (Or.inr told)) told

def Answered (events : List Event) (id : String) : Prop :=
  (∃ event ∈ events, Anomaly id event.toEventDraft) ∧
    ∃ event ∈ events, Quarantine id event.toEventDraft ∧ ¬ Unfounded event.toEventDraft

def foundedQuarantine (event : Event) : Bool := ofType .agentQuarantined event && !illegitimate event

theorem foundedQuarantine_iff (event : Event) :
    foundedQuarantine event = true ↔
      event.eventType = .agentQuarantined ∧ ¬ Unfounded event.toEventDraft := by
  simp [foundedQuarantine, ofType, illegitimate, Unfounded]

theorem detection_found {events : List Event} {id : String} {tick : Nat}
    (found : (firstTicks (ofType .anomalyDetected) events).lookup id = some tick) :
    ∃ event ∈ events, Anomaly id event.toEventDraft ∧ event.simTick = tick := by
  obtain ⟨event, member, counted, subject, dated⟩ := firstTicks_told (lookup_member found)
  exact ⟨event, member, ⟨of_decide_eq_true counted, subject⟩, dated⟩

def containments (events : List Event) : List Int :=
  (firstTicks foundedQuarantine events).filterMap fun entry =>
    ((firstTicks (ofType .anomalyDetected) events).lookup entry.1).map fun detected =>
      (entry.2 : Int) - detected

theorem containments_of {events : List Event} {latency : Int} (member : latency ∈ containments events) :
    ∃ id, ∃ anomaly ∈ events, ∃ quarantine ∈ events, Anomaly id anomaly.toEventDraft ∧
      Quarantine id quarantine.toEventDraft ∧ ¬ Unfounded quarantine.toEventDraft ∧
      latency = (quarantine.simTick : Int) - anomaly.simTick := by
  obtain ⟨entry, inside, known⟩ := List.mem_filterMap.mp member
  obtain ⟨detected, first, rfl⟩ := Option.map_eq_some_iff.mp known
  obtain ⟨tick, found, same⟩ := Option.bind_eq_some_iff.mp first
  obtain rfl := Option.some.inj same
  obtain ⟨quarantine, there, counted, subject, dated⟩ := firstTicks_told inside
  obtain ⟨anomaly, here, told, same⟩ := detection_found found
  obtain ⟨type, founded⟩ := (foundedQuarantine_iff quarantine).mp counted
  exact ⟨entry.1, anomaly, here, quarantine, there, told, ⟨type, subject⟩, founded, by
    rw [dated, same]⟩

theorem containments_nonempty (events : List Event) :
    containments events ≠ [] ↔ ∃ id, Answered events id := by
  constructor
  · intro some_
    obtain ⟨latency, member⟩ := List.exists_mem_of_ne_nil _ some_
    obtain ⟨id, anomaly, here, quarantine, there, told, contained, founded, _⟩ :=
      containments_of member
    exact ⟨id, ⟨anomaly, here, told⟩, quarantine, there, contained, founded⟩
  · rintro ⟨id, ⟨anomaly, here, told⟩, quarantine, there, contained, founded⟩
    have counted := (foundedQuarantine_iff quarantine).mpr ⟨contained.1, founded⟩
    obtain ⟨tick, inside⟩ := firstTicks_found there counted contained.2
    obtain ⟨first, detected⟩ := @firstTicks_found (ofType .anomalyDetected) _ _ _ here
      (decide_eq_true told.1) told.2
    obtain ⟨found, known⟩ := member_lookup detected
    apply List.ne_nil_of_mem
    exact List.mem_filterMap.mpr ⟨(id, tick), inside, by rw [known]; rfl⟩

/-- Whatever part of a run's events is at hand: a detected agent is quarantined at once, and
    no agent is detected before it was compromised. -/
theorem latencies_of_run (rng : Rng) (networkx : Networkx) (experimentId : Uuid)
    (config : ExperimentConfig) (hasGateway : Bool) (c : Config)
    (reach : Reachable rng (created rng networkx experimentId config hasGateway) c)
    (events : List Event) (published : ∀ event ∈ events, event ∈ c.runner.bus.published) :
    (containmentLatency events = none ∨ containmentLatency events = some 0) ∧
      (containmentLatency events = some 0 ↔ ∃ id, Answered events id) ∧
      ∀ latency, detectionLatency c.runner.state events = some latency → 0 ≤ latency := by
  have told : ∀ event ∈ events, event.toEventDraft ∈ c.runner.log := fun event member =>
    List.mem_map_of_mem (published event member)
  have zero : ∀ latency ∈ containments events, latency = 0 := by
    intro latency member
    obtain ⟨id, anomaly, here, quarantine, there, detected, contained, founded, rfl⟩ :=
      containments_of member
    obtain ⟨tick, clocked⟩ := reachable_clocked reach id
    rw [clocked.detected _ (told anomaly here) detected,
      clocked.contained _ (told quarantine there) contained founded, sub_self]
  have mean : containmentLatency events =
      if (containments events).isEmpty then none else some 0 := mean_zero zero
  have answered := containments_nonempty events
  refine ⟨?_, ?_, ?_⟩
  · rw [mean]
    split
    · exact Or.inl rfl
    · exact Or.inr rfl
  · rw [mean, ← answered]
    cases containments events <;> simp
  · intro latency known
    refine mean_nonneg ?_ known
    intro l member
    obtain ⟨node, there, dated⟩ := List.mem_filterMap.mp member
    split at dated
    · rename_i compromised detected since found
      obtain rfl := Option.some.inj dated
      obtain ⟨event, inside, anomaly, same⟩ := detection_found found
      obtain ⟨tick, clocked⟩ := reachable_clocked reach node.id
      rw [Keyed.Table.get?_of_member there] at clocked
      have late := clocked.since compromised since
      have now := clocked.detected _ (told event inside) anomaly
      omega
    · cases dated

theorem latencies_at_first :
    (∃ event ∈ firstDetection.runner.bus.published, event.eventType = .agentQuarantined) ∧
      (containmentLatency firstDetection.runner.bus.published = some 0 ↔
        ∃ id, Answered firstDetection.runner.bus.published id) := by
  obtain ⟨_, _, d, told, type, _⟩ := first_detection_quarantines
  obtain ⟨event, member, rfl⟩ := List.mem_map.mp told
  have enters : Reachable default (created default default 0 smallNetwork false) firstDetection :=
    .single (.own (.enters rfl rfl))
  have zero := latencies_of_run default default 0 smallNetwork false firstDetection enters
    firstDetection.runner.bus.published fun _ member => member
  exact ⟨⟨event, member, type⟩, zero.2.1⟩

end AgentShield.Metrics
