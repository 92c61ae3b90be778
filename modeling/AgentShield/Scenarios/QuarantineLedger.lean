import AgentShield.Lib.History
import AgentShield.Scenarios.Lifecycle
import AgentShield.Scenarios.Rounds

/-!
What the log says about the quarantine of one agent: at most one event, and whether
the report was founded (`docs/PLAN.md`, the false-quarantine attack).
-/
namespace AgentShield.Scenarios
open Schema Keyed Engine Agents TopologyBuilder

def Success (id : String) (draft : EventDraft) : Prop :=
  draft.eventType = .compromiseSucceeded ∧ draft.targetAgentId = some id

def Anomaly (id : String) (draft : EventDraft) : Prop :=
  draft.eventType = .anomalyDetected ∧ draft.agentId = some id

def Quarantine (id : String) (draft : EventDraft) : Prop :=
  draft.eventType = .agentQuarantined ∧ draft.agentId = some id

def Unfounded (draft : EventDraft) : Prop :=
  metadataGet draft.metadata "legitimate" = some (.bool false)

structure Unconcerned (id : String) (drafts : List EventDraft) : Prop where
  success : ∀ d ∈ drafts, ¬ Success id d
  anomaly : ∀ d ∈ drafts, ¬ Anomaly id d
  quarantine : ∀ d ∈ drafts, ¬ Quarantine id d

theorem unconcerned_silent {drafts : List EventDraft} (silent : ∀ d ∈ drafts, Silent d)
    (id : String) : Unconcerned id drafts := by
  constructor
  · intro d member success
    exact (silent d member).1 (Or.inl success.1)
  · intro d member anomaly
    exact (silent d member).2 anomaly.1
  · intro d member quarantine
    exact (silent d member).1 (Or.inr quarantine.1)

theorem unconcerned_append {id : String} {first later : List EventDraft}
    (before : Unconcerned id first) (after : Unconcerned id later) :
    Unconcerned id (first ++ later) := by
  constructor
  · intro d member
    exact (List.mem_append.mp member).elim (before.success d) (after.success d)
  · intro d member
    exact (List.mem_append.mp member).elim (before.anomaly d) (after.anomaly d)
  · intro d member
    exact (List.mem_append.mp member).elim (before.quarantine d) (after.quarantine d)

theorem unconcerned_others {id : String} {drafts : List EventDraft}
    (others : ∀ d ∈ drafts, d.agentId ≠ some id ∧ d.eventType ≠ .compromiseSucceeded) :
    Unconcerned id drafts := by
  constructor
  · intro d member success
    exact (others d member).2 success.1
  · intro d member anomaly
    exact (others d member).1 anomaly.2
  · intro d member quarantine
    exact (others d member).1 quarantine.2

/-- What the drafts of one effect tell of one agent. -/
inductive Tells (node : AgentNode) : List EventDraft → AgentNode → Prop where
  | nothing {drafts : List EventDraft} (apart : Unconcerned node.id drafts) :
      Tells node drafts node
  | compromised {drafts : List EventDraft} {source : String} {tick : Nat}
      (healthy : node.securityState = .healthy) (told : ∃ d ∈ drafts, Success node.id d)
      (spread : ∀ d ∈ drafts, ¬ Anomaly node.id d ∧ ¬ Quarantine node.id d) :
      Tells node drafts (node.compromise source tick)
  | detected {early late : List EventDraft} {anomaly quarantine : EventDraft}
      (compromised : node.securityState = .compromised) (reported : Anomaly node.id anomaly)
      (contained : Quarantine node.id quarantine) (founded : ¬ Unfounded quarantine)
      (now : anomaly.simTick = quarantine.simTick) (before : Unconcerned node.id early)
      (after : Unconcerned node.id late) :
      Tells node (early ++ anomaly :: quarantine :: late)
        { node with securityState := .quarantined }
  | accused {early late : List EventDraft} {quarantine : EventDraft}
      (healthy : node.securityState = .healthy) (contained : Quarantine node.id quarantine)
      (unfounded : Unfounded quarantine) (before : Unconcerned node.id early)
      (after : Unconcerned node.id late) :
      Tells node (early ++ quarantine :: late) { node with securityState := .quarantined }

theorem attack_unconcerned {state : WorldState} {tick : Nat} {attack : Attack}
    (made : attack.Made state tick) {id : String} (unclaimed : ¬ attack.claims.Has id) :
    Unconcerned id attack.drafts := by
  constructor
  · intro d member success
    obtain ⟨_, silent | ⟨_, other, subject, claimed⟩⟩ := made_draft made member
    · exact silent.1 (Or.inl success.1)
    · rw [success.2] at subject
      exact unclaimed (Option.some.inj subject ▸ claimed)
  · intro d member anomaly
    obtain ⟨_, silent | ⟨success, _⟩⟩ := made_draft made member
    · exact silent.2 anomaly.1
    · rw [anomaly.1] at success
      cases success
  · intro d member quarantine
    obtain ⟨_, silent | ⟨success, _⟩⟩ := made_draft made member
    · exact silent.1 (Or.inr quarantine.1)
    · rw [quarantine.1] at success
      cases success

theorem attack_tells {state : WorldState} {attack : Attack}
    (made : attack.Made state state.tick) {node : AgentNode} (member : node ∈ state.nodes.values) :
    Tells node attack.drafts (node.claimed attack.claims state.tick) := by
  unfold AgentNode.claimed
  cases found : attack.claims.get? node.id with
  | none => exact .nothing (attack_unconcerned made (Table.get?_none_iff.mp found))
  | some claim =>
    have has : attack.claims.Has node.id := Table.has_iff_get?.mpr ⟨claim, found⟩
    obtain ⟨other, there, same, healthy⟩ := (told_of_made made).healthy node.id has
    obtain rfl := same_node there member same
    apply Tells.compromised healthy (made_claim_told made has)
    intro d inside
    obtain ⟨_, silent | ⟨success, _⟩⟩ := made_draft made inside
    · constructor
      · intro anomaly
        exact silent.2 anomaly.1
      · intro quarantine
        exact silent.1 (Or.inr quarantine.1)
    · constructor
      · intro anomaly
        rw [anomaly.1] at success
        cases success
      · intro quarantine
        rw [quarantine.1] at success
        cases success

section
variable (config : ExperimentConfig) (tick : Nat)

def founded (node : AgentNode) : List EventDraft :=
  [Detection.anomalyDraft config tick node, Detection.quarantinedDraft tick [] node]

def unfounded (node : AgentNode) : EventDraft :=
  Detection.quarantinedDraft tick [("legitimate", .bool false)] node

variable {config} {tick}

theorem founded_apart {id : String} {nodes : List AgentNode}
    (others : id ∉ nodes.map AgentNode.id) :
    Unconcerned id (nodes.flatMap (founded config tick)) := by
  apply unconcerned_others
  intro d member
  obtain ⟨node, inside, drafted⟩ := List.mem_flatMap.mp member
  have differ : node.id ≠ id := fun same => others (same ▸ List.mem_map_of_mem inside)
  simp only [founded, List.mem_cons, List.not_mem_nil, or_false] at drafted
  rcases drafted with rfl | rfl
  · simpa [Detection.anomalyDraft] using differ
  · simpa [Detection.quarantinedDraft] using differ

theorem unfounded_apart {id : String} {nodes : List AgentNode}
    (others : id ∉ nodes.map AgentNode.id) : Unconcerned id (nodes.map (unfounded tick)) := by
  apply unconcerned_others
  intro d member
  obtain ⟨node, inside, rfl⟩ := List.mem_map.mp member
  have differ : node.id ≠ id := fun same => others (same ▸ List.mem_map_of_mem inside)
  simpa [unfounded, Detection.quarantinedDraft] using differ

theorem detected_tells {detected falselyReported : List AgentNode} {node : AgentNode}
    (distinct : ((detected ++ falselyReported).map AgentNode.id).Nodup)
    (member : node ∈ detected) (compromised : node.securityState = .compromised) :
    Tells node (Detection.drafts config tick detected falselyReported)
      { node with securityState := .quarantined } := by
  obtain ⟨first, later, rfl⟩ := List.append_of_mem member
  have apart : node.id ∉ first.map AgentNode.id ∧ node.id ∉ later.map AgentNode.id ∧
      node.id ∉ falselyReported.map AgentNode.id := by
    simp only [List.map_append, List.map_cons, List.append_assoc, List.cons_append] at distinct
    have aside := (List.nodup_middle.mp distinct).notMem
    simpa only [List.mem_append, not_or] using aside
  have split : Detection.drafts config tick (first ++ node :: later) falselyReported =
      first.flatMap (founded config tick) ++ Detection.anomalyDraft config tick node ::
        Detection.quarantinedDraft tick [] node ::
        (later.flatMap (founded config tick) ++ falselyReported.map (unfounded tick)) := by
    unfold Detection.drafts
    rw [List.flatMap_append, List.flatMap_cons]
    simp only [List.append_assoc, List.cons_append, List.nil_append]
    rfl
  rw [split]
  refine Tells.detected compromised ?_ ?_ ?_ rfl (founded_apart apart.1)
    (unconcerned_append (founded_apart apart.2.1) (unfounded_apart apart.2.2))
  · exact ⟨rfl, rfl⟩
  · exact ⟨rfl, rfl⟩
  · intro wrong
    cases wrong

theorem accused_tells {detected falselyReported : List AgentNode} {node : AgentNode}
    (distinct : ((detected ++ falselyReported).map AgentNode.id).Nodup)
    (member : node ∈ falselyReported) (healthy : node.securityState = .healthy) :
    Tells node (Detection.drafts config tick detected falselyReported)
      { node with securityState := .quarantined } := by
  obtain ⟨first, later, rfl⟩ := List.append_of_mem member
  have apart : node.id ∉ detected.map AgentNode.id ∧ node.id ∉ first.map AgentNode.id ∧
      node.id ∉ later.map AgentNode.id := by
    simp only [List.map_append, List.map_cons, ← List.append_assoc] at distinct
    have aside := (List.nodup_middle.mp distinct).notMem
    simpa only [List.mem_append, not_or, and_assoc] using aside
  have split : Detection.drafts config tick detected (first ++ node :: later) =
      (detected.flatMap (founded config tick) ++ first.map (unfounded tick)) ++
        unfounded tick node :: later.map (unfounded tick) := by
    unfold Detection.drafts
    rw [List.map_append, List.map_cons, List.append_assoc]
    rfl
  rw [split]
  refine Tells.accused healthy ?_ ?_
    (unconcerned_append (founded_apart apart.1) (unfounded_apart apart.2.1))
    (unfounded_apart apart.2.2)
  · exact ⟨rfl, rfl⟩
  · rfl

end

theorem effect_tells {config : ExperimentConfig} {state state' : WorldState}
    {drafts : List EventDraft} (effect : Effect config state drafts state') {node' : AgentNode}
    (member' : node' ∈ state'.nodes.values) :
    ∃ node ∈ state.nodes.values, Tells node drafts node' := by
  cases effect with
  | quiet quiet =>
    rw [quiet.nodes] at member'
    exact ⟨node', member', .nothing (unconcerned_silent (fun d inside => (quiet.silent d inside).1) _)⟩
  | @attack attack _ made nodes edges tick =>
    rw [nodes] at member'
    obtain ⟨node, member, rfl⟩ := List.mem_map.mp member'
    exact ⟨node, member, attack_tells made member⟩
  | @detection detected falselyReported caught accused distinct =>
    obtain ⟨node, member, rfl⟩ := List.mem_map.mp member'
    refine ⟨node, member, ?_⟩
    unfold Detection.quarantineIn
    split
    · rename_i chosen
      obtain ⟨other, reported, same⟩ := List.mem_map.mp chosen
      rcases List.mem_append.mp reported with legitimate | illegitimate
      · obtain ⟨present, compromised⟩ := caught other legitimate
        obtain rfl := same_node present member same
        exact detected_tells distinct legitimate compromised
      · obtain ⟨present, healthy⟩ := accused other illegitimate
        obtain rfl := same_node present member same
        exact accused_tells distinct illegitimate healthy
    · rename_i spared
      rw [List.map_append, List.mem_append, not_or] at spared
      exact .nothing (unconcerned_append (founded_apart spared.1) (unfounded_apart spared.2))

/-- What stands before a quarantine, and what became of the agent. -/
structure Accounted (node : AgentNode) (before : List EventDraft) (quarantine : EventDraft) :
    Prop where
  first : ∀ d ∈ before, ¬ Quarantine node.id d
  anomaly : Unfounded quarantine ↔ ∀ d ∈ before, ¬ Anomaly node.id d
  preceded : ¬ Unfounded quarantine → ∃ earlier anomaly, before = earlier ++ [anomaly] ∧
    Anomaly node.id anomaly ∧ anomaly.simTick = quarantine.simTick
  success : Unfounded quarantine ↔ ∀ d ∈ before, ¬ Success node.id d
  never : Unfounded quarantine ↔ node.tickCompromised = none

structure Ledger (node : AgentNode) (log : List EventDraft) : Prop where
  healthy : node.securityState = .healthy →
    node.tickCompromised = none ∧ Unconcerned node.id log
  compromised : node.securityState = .compromised → node.tickCompromised ≠ none ∧
    (∃ d ∈ log, Success node.id d) ∧ ∀ d ∈ log, ¬ Anomaly node.id d ∧ ¬ Quarantine node.id d
  accounted : ∀ before quarantine after, log = before ++ quarantine :: after →
    Quarantine node.id quarantine → Accounted node before quarantine

theorem split_unique {α : Type} {P : α → Prop} {first later before after : List α}
    {item other : α} (split : first ++ item :: later = before ++ other :: after)
    (none_before : ∀ a ∈ first, ¬ P a) (none_after : ∀ a ∈ later, ¬ P a) (holds : P other) :
    before = first ∧ other = item := by
  rcases History.split_append split with ⟨rest, inside, _⟩ | ⟨early, rfl, more⟩
  · exact absurd holds (none_before other (by rw [inside]; simp))
  · cases early with
    | nil =>
      obtain ⟨rfl, _⟩ := List.cons.inj more
      exact ⟨List.append_nil first, rfl⟩
    | cons head tail =>
      obtain ⟨rfl, inside⟩ := List.cons.inj more
      exact absurd holds (none_after other (by rw [inside]; simp))

theorem unquarantined_ledger {node : AgentNode} {log : List EventDraft}
    (none : ∀ d ∈ log, ¬ Quarantine node.id d) (before : List EventDraft)
    (quarantine : EventDraft) (after : List EventDraft)
    (split : log = before ++ quarantine :: after)
    (contained : Quarantine node.id quarantine) : Accounted node before quarantine := by
  have inside : quarantine ∈ log := by
    rw [split]
    exact List.mem_append_right before List.mem_cons_self
  exact absurd contained (none quarantine inside)

theorem tells_ledger {node node' : AgentNode} {log drafts : List EventDraft}
    (ledger : Ledger node log) (tells : Tells node drafts node') :
    Ledger node' (log ++ drafts) := by
  cases tells with
  | nothing apart =>
    constructor
    · intro healthy
      obtain ⟨unmarked, before⟩ := ledger.healthy healthy
      exact ⟨unmarked, unconcerned_append before apart⟩
    · intro compromised
      obtain ⟨marked, ⟨d, member, success⟩, spread⟩ := ledger.compromised compromised
      refine ⟨marked, ⟨d, List.mem_append_left drafts member, success⟩, ?_⟩
      intro d member
      rcases List.mem_append.mp member with old | new
      · exact spread d old
      · exact ⟨apart.anomaly d new, apart.quarantine d new⟩
    · intro before quarantine after split contained
      rcases History.split_append split with ⟨rest, inside, _⟩ | ⟨early, _, inside⟩
      · exact ledger.accounted before quarantine rest inside contained
      · exact absurd contained (apart.quarantine quarantine (by rw [inside]; simp))
  | compromised healthy told spread =>
    obtain ⟨_, before⟩ := ledger.healthy healthy
    have neither : ∀ d ∈ log ++ drafts, ¬ Anomaly node.id d ∧ ¬ Quarantine node.id d := by
      intro d member
      rcases List.mem_append.mp member with old | new
      · exact ⟨before.anomaly d old, before.quarantine d old⟩
      · exact spread d new
    constructor
    · intro healthy
      cases healthy
    · intro _
      obtain ⟨d, member, success⟩ := told
      exact ⟨Option.some_ne_none _, ⟨d, List.mem_append_right log member, success⟩, neither⟩
    · exact unquarantined_ledger fun d member => (neither d member).2
  | @detected early late anomaly quarantine compromised reported contained founded now before
      after =>
    obtain ⟨marked, ⟨d, member, success⟩, spread⟩ := ledger.compromised compromised
    constructor
    · intro healthy
      cases healthy
    · intro compromised
      cases compromised
    · intro before' quarantine' after' split contained'
      have none_before : ∀ d ∈ log ++ early ++ [anomaly], ¬ Quarantine node.id d := by
        intro d member
        rcases List.mem_append.mp member with sofar | last
        · rcases List.mem_append.mp sofar with old | new
          · exact (spread d old).2
          · exact before.quarantine d new
        · rw [List.mem_singleton.mp last]
          intro wrong
          have type := wrong.1
          rw [reported.1] at type
          cases type
      have split' : (log ++ early ++ [anomaly]) ++ quarantine :: late =
          before' ++ quarantine' :: after' := by
        rw [← split]
        simp
      obtain ⟨rfl, rfl⟩ := split_unique split' none_before after.quarantine contained'
      constructor
      · exact none_before
      · constructor
        · intro wrong
          exact absurd wrong founded
        · intro none
          exact absurd reported (none anomaly (by simp))
      · intro _
        exact ⟨log ++ early, anomaly, rfl, reported, now⟩
      · constructor
        · intro wrong
          exact absurd wrong founded
        · intro none
          exact absurd success (none d (by simp [member]))
      · constructor
        · intro wrong
          exact absurd wrong founded
        · intro unmarked
          exact absurd unmarked marked
  | @accused early late quarantine healthy contained unfounded before after =>
    obtain ⟨unmarked, apart⟩ := ledger.healthy healthy
    have sofar := unconcerned_append apart before
    constructor
    · intro healthy
      cases healthy
    · intro compromised
      cases compromised
    · intro before' quarantine' after' split contained'
      rw [← List.append_assoc] at split
      obtain ⟨rfl, rfl⟩ := split_unique split sofar.quarantine after.quarantine contained'
      constructor
      · exact sofar.quarantine
      · exact ⟨fun _ => sofar.anomaly, fun _ => unfounded⟩
      · intro founded
        exact absurd unfounded founded
      · exact ⟨fun _ => sofar.success, fun _ => unfounded⟩
      · exact ⟨fun _ => unmarked, fun _ => unfounded⟩

theorem effects_ledger {config : ExperimentConfig} {state state' : WorldState}
    {log drafts : List EventDraft} (start : ∀ node ∈ state.nodes.values, Ledger node log)
    (effects : Effects config state drafts state') :
    ∀ node' ∈ state'.nodes.values, Ledger node' (log ++ drafts) := by
  induction effects with
  | none =>
    rw [List.append_nil]
    exact start
  | next _ effect ih =>
    intro node' member'
    obtain ⟨node, member, tells⟩ := effect_tells effect member'
    rw [← List.append_assoc]
    exact tells_ledger (ih node member) tells

theorem buildWorld_ledger (rng : Rng) (networkx : Networkx) (config : ExperimentConfig)
    {before : List EventDraft} (silent : ∀ d ∈ before, Silent d) :
    ∀ node ∈ (buildWorld rng networkx config).1.nodes.values,
      Ledger node (before ++ (buildWorld rng networkx config).2) := by
  intro node member
  have told : (buildWorld rng networkx config).2 = (sorted (agentIds config)).zipIdx.map
      (createdDraft config) ++ [seededDraft (patientZero rng networkx config)] := rfl
  rw [told, ← List.append_assoc]
  have quiet : ∀ d ∈ before ++ (sorted (agentIds config)).zipIdx.map (createdDraft config),
      Silent d := by
    intro d inside
    rcases List.mem_append.mp inside with early | created
    · exact silent d early
    · obtain ⟨entry, _, rfl⟩ := List.mem_map.mp created
      simp [Silent, Marks, createdDraft]
  have apart := unconcerned_silent quiet node.id
  have neither : ∀ d ∈ [seededDraft (patientZero rng networkx config)],
      ¬ Anomaly node.id d ∧ ¬ Quarantine node.id d := by
    intro d inside
    rw [List.mem_singleton.mp inside]
    simp [Anomaly, Quarantine, seededDraft]
  obtain ⟨_, kind⟩ := (buildWorld_zero rng networkx config).2 node member
  have none : ∀ d ∈ before ++ (sorted (agentIds config)).zipIdx.map (createdDraft config) ++
      [seededDraft (patientZero rng networkx config)],
      ¬ Anomaly node.id d ∧ ¬ Quarantine node.id d := by
    intro d inside
    rcases List.mem_append.mp inside with early | seeded
    · exact ⟨apart.anomaly d early, apart.quarantine d early⟩
    · exact neither d seeded
  by_cases zero : node.id = patientZero rng networkx config
  · rw [if_pos zero] at kind
    constructor
    · intro healthy
      rw [kind.1] at healthy
      cases healthy
    · intro _
      refine ⟨by rw [kind.2]; simp, ⟨_, List.mem_append_right _ List.mem_cons_self, ?_⟩, none⟩
      exact ⟨rfl, congrArg some zero.symm⟩
    · exact unquarantined_ledger fun d inside => (none d inside).2
  · rw [if_neg zero] at kind
    constructor
    · intro _
      refine ⟨kind.2, unconcerned_append apart ?_⟩
      constructor
      · intro d inside success
        obtain rfl := List.mem_singleton.mp inside
        exact zero (Option.some.inj success.2).symm
      · intro d inside
        exact (neither d inside).1
      · intro d inside
        exact (neither d inside).2
    · intro compromised
      rw [kind.1] at compromised
      cases compromised
    · exact unquarantined_ledger fun d inside => (none d inside).2

end AgentShield.Scenarios
