import AgentShield.Scenarios.Rounds

/-!
The compromised nodes of the security graph over a run. Every synchronous step
keeps them; the agents' step starts from an empty set when a model leaks.
-/
namespace AgentShield.Scenarios
open Schema Keyed Engine Agents Propagation TopologyBuilder

theorem scenario_keeps {name : String} {step : Scenario}
    (found : syncScenarios.lookup name = some step) (rng : Rng) (state : WorldState)
    (config : ExperimentConfig) :
    state.compromisedGraphNodes ⊆ (step rng state config).1.compromisedGraphNodes := by
  rcases registered_cases found with ⟨_, rfl⟩ | ⟨_, rfl⟩ | ⟨_, quiet⟩
  · exact Finset.Subset.refl _
  · exact Finset.Subset.refl _
  · exact (quiet rng state config).kept

theorem runSyncScenarios_keep (rng : Rng) (config : ExperimentConfig) (names : List String)
    (acc : WorldState × List EventDraft) :
    acc.1.compromisedGraphNodes ⊆
      (names.foldl (runSyncScenario rng config) acc).1.compromisedGraphNodes := by
  induction names generalizing acc with
  | nil => exact Finset.Subset.refl _
  | cons name rest ih =>
    apply Finset.Subset.trans _ (ih (runSyncScenario rng config acc name))
    unfold runSyncScenario
    cases found : syncScenarios.lookup name with
    | none => exact Finset.Subset.refl _
    | some step => exact scenario_keeps found rng acc.1 config

theorem detection_keeps (rng : Rng) (state : WorldState) (config : ExperimentConfig) :
    (Detection.step rng state config).1.compromisedGraphNodes = state.compromisedGraphNodes := by
  unfold Detection.step
  split <;> rfl

theorem advance_keeps (rng : Rng) (state : WorldState) (config : ExperimentConfig) :
    state.compromisedGraphNodes ⊆ (advance rng state config).1.compromisedGraphNodes := by
  have scenarios := runSyncScenarios_keep rng config config.activeScenarios (state, [])
  have detection := detection_keeps rng (runSyncScenarios rng state config).1 config
  unfold advance
  rw [detection]
  exact scenarios

def leaked (entry : Attempt × Option ModelResponse) : Bool :=
  match entry.2 with
  | none => false
  | some response => responseLeakedToken response.text (tokenOf entry.1.target)

theorem put_inhabited {table : Table Claim.target} {claim : Claim} :
    (table.put claim).values ≠ [] := by
  intro none
  have has : (table.put claim).Has claim.target := Table.has_put.mpr (Or.inl rfl)
  unfold Table.Has Table.keys at has
  rw [none] at has
  cases has

theorem succeed_claims (attack : Attack) (tick : Nat) (source target : String)
    (metadata : Metadata) : (attack.succeed tick source target metadata).claims.values ≠ [] := by
  unfold Attack.succeed
  split
  · rename_i already
    intro none
    have kept : attack.claims.values = [] := none
    unfold Table.Has Table.keys at already
    rw [kept] at already
    cases already
  · exact put_inhabited

theorem conclude_unclaimed (tick : Nat) (attack : Attack)
    (entry : Attempt × Option ModelResponse) :
    (conclude tick attack entry).claims.values = [] ↔
      attack.claims.values = [] ∧ leaked entry = false := by
  obtain ⟨attempt, response⟩ := entry
  unfold conclude leaked
  cases response with
  | none => exact ⟨fun none => ⟨none, rfl⟩, fun both => both.1⟩
  | some response =>
    dsimp only
    split
    · rename_i reveals
      constructor
      · intro none
        exact absurd none (succeed_claims _ _ _ _ _)
      · rintro ⟨_, kept⟩
        rw [reveals] at kept
        cases kept
    · rename_i kept
      exact ⟨fun none => ⟨none, Bool.eq_false_iff.mpr kept⟩, fun both => both.1⟩

theorem concluded_unclaimed (tick : Nat) (entries : List (Attempt × Option ModelResponse))
    (attack : Attack) :
    (entries.foldl (conclude tick) attack).claims.values = [] ↔
      attack.claims.values = [] ∧ entries.any leaked = false := by
  induction entries generalizing attack with
  | nil => simp
  | cons entry rest ih =>
    rw [List.foldl_cons, ih, conclude_unclaimed, List.any_cons, Bool.or_eq_false_iff, and_assoc]

theorem realAgentStep_compromised (state : WorldState) (tick : Nat) (attempts : List Attempt)
    (responses : List (Option ModelResponse)) :
    (realAgentStep state tick attempts responses).1.compromisedGraphNodes =
      if (attempts.zip responses).any leaked then ∅ else state.compromisedGraphNodes := by
  have claims := concluded_unclaimed tick (attempts.zip responses) .start
  unfold realAgentStep
  dsimp only
  split
  · rename_i unclaimed
    rw [if_neg (Bool.eq_false_iff.mp (claims.mp unclaimed).2)]
  · rename_i claimed
    rw [if_pos]
    apply Bool.of_not_eq_false
    intro kept
    exact claimed (claims.mpr ⟨rfl, kept⟩)

def AsyncRun.state : AsyncRun → WorldState
  | .finished state _ => state
  | .gathering locals => locals.state

theorem runAsyncScenarios_state (config : ExperimentConfig) (tick : Nat) (names : List String)
    (state : WorldState) (drafts : List EventDraft) :
    (runAsyncScenarios config tick names state drafts).state = state := by
  induction names with
  | nil => rfl
  | cons name rest ih =>
    unfold runAsyncScenarios
    split
    · cases attempts state config tick with
      | nil => exact ih
      | cons first others => rfl
    · exact ih

section
variable {γ : Type} {A : Answering γ} {rng : Rng} {config : ExperimentConfig} {hasGateway : Bool}

theorem awaited_compromised {tick : Nat} {g g' : γ} {run run' : AsyncRun} {asked : Answered}
    (awaited : Awaited A config tick g run g' run' asked) :
    run'.state.compromisedGraphNodes =
      if asked.any leaked then ∅ else run.state.compromisedGraphNodes := by
  induction awaited with
  | here => rfl
  | @answered _ _ locals responses asked _ _ ih =>
    have before : locals.state.compromisedGraphNodes =
        if asked.any leaked then ∅ else run.state.compromisedGraphNodes := ih
    unfold Gathering.resume
    rw [runAsyncScenarios_state, realAgentStep_compromised, before, List.any_append]
    cases asked.any leaked <;> cases (locals.attempts.zip responses).any leaked <;> rfl

/-- What was compromised before the iteration, or in its synchronous half, still is. -/
structure Persists (before between after : WorldState) : Prop where
  sync : before.compromisedGraphNodes ⊆ between.compromisedGraphNodes
  async : between.compromisedGraphNodes ⊆ after.compromisedGraphNodes

/-- Nothing is there to lose, or no model reveals its token. -/
def NothingToLose (between : WorldState) (asked : Answered) : Prop :=
  between.compromisedGraphNodes = ∅ ∨ asked.any leaked = false

theorem round_persists_iff {state state' : WorldState} {g g' : γ} {drafts : List EventDraft}
    {asked : Answered} (round : Round A rng config hasGateway state g drafts state' g' asked) :
    Persists state (advance rng state config).1 state' ↔
      NothingToLose (advance rng state config).1 asked := by
  have sync := advance_keeps rng state config
  have async : state'.compromisedGraphNodes = if asked.any leaked then ∅
      else (advance rng state config).1.compromisedGraphNodes := by
    cases round with
    | sync alone => rfl
    | async together awaited =>
      have after := awaited_compromised awaited
      unfold asyncHalf at after
      rw [runAsyncScenarios_state] at after
      exact after
  unfold NothingToLose
  constructor
  · intro persists
    have kept := persists.async
    rw [async] at kept
    cases reveals : asked.any leaked with
    | false => exact Or.inr rfl
    | true =>
      rw [if_pos reveals] at kept
      exact Or.inl (Finset.subset_empty.mp kept)
  · rintro (none | kept)
    · refine ⟨sync, ?_⟩
      rw [none]
      exact Finset.empty_subset _
    · refine ⟨sync, ?_⟩
      rw [async, kept]
      exact Finset.Subset.refl _

variable (A rng config hasGateway)

/- An iteration in which no model reveals its token once there is something to lose. -/
def Lossless (start next : WorldState × γ) : Prop :=
  isFinished start.1 config = false ∧ ∃ drafts asked,
    Round A rng config hasGateway start.1 start.2 drafts next.1 next.2 asked ∧
      NothingToLose (advance rng start.1 config).1 asked

/-- Each iteration keeps them exactly when nothing is revealed; over a run of such
    iterations none is ever lost. -/
theorem compromised_graph_nodes_persist_iff :
    (∀ (state state' : WorldState) (g g' : γ) (drafts : List EventDraft) (asked : Answered),
      Round A rng config hasGateway state g drafts state' g' asked →
      (Persists state (advance rng state config).1 state' ↔
        NothingToLose (advance rng state config).1 asked)) ∧
    ∀ start next : WorldState × γ,
      Relation.ReflTransGen (Lossless A rng config hasGateway) start next →
      start.1.compromisedGraphNodes ⊆ next.1.compromisedGraphNodes := by
  constructor
  · intro state state' g g' drafts asked round
    exact round_persists_iff round
  · intro start next run
    induction run with
    | refl => exact Finset.Subset.refl _
    | tail _ iteration ih =>
      obtain ⟨_, drafts, asked, round, undisturbed⟩ := iteration
      have persists := (round_persists_iff round).mpr undisturbed
      exact ih.trans (persists.sync.trans persists.async)

end

def subvertedSentinel : ExperimentConfig :=
  { smallNetwork with
    defenseEnabled := false
    realAgentCount := twoAgents
    sentinelCount := ⟨1, by decide⟩
    sentinelCompromiseRate := certain
    activeScenarios := ["sentinel_compromise", "prompt_injection"] }

def pending (state : WorldState) : List Attempt := attempts state subvertedSentinel state.tick

theorem asyncHalf_pending {state : WorldState} (some : pending state ≠ []) :
    asyncHalf subvertedSentinel state = .gathering
      { state, drafts := [], attempts := pending state, rest := [] } := by
  have names : subvertedSentinel.activeScenarios = ["sentinel_compromise", "prompt_injection"] :=
    rfl
  unfold asyncHalf
  rw [names]
  unfold runAsyncScenarios
  rw [if_neg (by decide)]
  unfold runAsyncScenarios
  rw [if_pos (by decide)]
  unfold pending at some ⊢
  cases made : attempts state subvertedSentinel state.tick with
  | nil => exact absurd made some
  | cons first others => rfl

def unanswered (attempts : List Attempt) : List (Option ModelResponse) :=
  attempts.map fun _ => none

def revealed (attempts : List Attempt) : List (Option ModelResponse) :=
  attempts.map fun one => some
    { text := tokenOf one.target, latencyMs := 0, tokensUsed := 1, provider := .mock }

theorem round_asked {γ : Type} {A : Answering γ} {rng : Rng} {config : ExperimentConfig}
    {state between : WorldState} {attempts : List Attempt} {g g' : γ}
    {responses : List (Option ModelResponse)}
    (sync : (advance rng state config).1 = between)
    (waits : asyncHalf config between = .gathering ⟨between, [], attempts, []⟩)
    (given : A g attempts responses g') :
    Round A rng config true state g
      ((advance rng state config).2 ++ (realAgentStep between between.tick attempts responses).2)
      (realAgentStep between between.tick attempts responses).1 g'
      ([] ++ attempts.zip responses) := by
  apply Round.async rfl
  rw [sync, waits]
  exact Awaited.answered .here given

def synced (state : WorldState) : WorldState := (advance default state subvertedSentinel).1

def answered (answers : List Attempt → List (Option ModelResponse)) (state : WorldState) :
    WorldState :=
  (realAgentStep (synced state) (synced state).tick (pending (synced state))
    (answers (pending (synced state)))).1

theorem round_answered {answers : List Attempt → List (Option ModelResponse)}
    {state : WorldState} (all : ∀ attempts, (answers attempts).length = attempts.length)
    (waits : (pending (synced state)).isEmpty = false) :
    ∃ drafts, Round anyAnswers default subvertedSentinel true state () drafts
      (answered answers state) ()
      ([] ++ (pending (synced state)).zip (answers (pending (synced state)))) :=
  ⟨_, round_asked rfl (asyncHalf_pending (List.isEmpty_eq_false_iff.mp waits)) (all _)⟩

theorem unanswered_reveals_nothing (attempts : List Attempt) :
    ([] ++ attempts.zip (unanswered attempts)).any leaked = false := by
  unfold unanswered
  induction attempts with
  | nil => rfl
  | cons one rest ih =>
    rw [List.nil_append] at ih ⊢
    rw [List.map_cons, List.zip_cons_cons, List.any_cons, ih]
    rfl

theorem silent (attempts : List Attempt) : (unanswered attempts).length = attempts.length :=
  List.length_map _

theorem lossless_unanswered {state : WorldState}
    (going : isFinished state subvertedSentinel = false)
    (waits : (pending (synced state)).isEmpty = false) :
    Lossless anyAnswers default subvertedSentinel true (state, ())
      (answered unanswered state, ()) := by
  obtain ⟨drafts, round⟩ := round_answered silent waits
  unfold Lossless
  dsimp only
  exact ⟨going, drafts, _, round, Or.inr (unanswered_reveals_nothing (pending (synced state)))⟩

def firstAnswered : WorldState :=
  answered unanswered (buildWorld default default subvertedSentinel).1

def secondAnswered : WorldState := answered revealed firstAnswered

def secondUnanswered : WorldState := answered unanswered firstAnswered

theorem subverted_ticks :
    (pending (synced (buildWorld default default subvertedSentinel).1)).isEmpty = false ∧
    (pending (synced firstAnswered)).isEmpty = false ∧
    isFinished (buildWorld default default subvertedSentinel).1 subvertedSentinel = false ∧
    isFinished firstAnswered subvertedSentinel = false ∧
    "sentinel-000" ∈ firstAnswered.compromisedGraphNodes ∧
    "sentinel-000" ∉ secondAnswered.compromisedGraphNodes := by
  decide +kernel

theorem subverted_sentinel_persists :
    Persists (buildWorld default default subvertedSentinel).1
      (advance default (buildWorld default default subvertedSentinel).1 subvertedSentinel).1
      firstAnswered ∧
    "sentinel-000" ∈ firstAnswered.compromisedGraphNodes ∧
    "sentinel-000" ∈ secondUnanswered.compromisedGraphNodes := by
  obtain ⟨waits, waits', _, going, healed⟩ := subverted_ticks
  have persist := compromised_graph_nodes_persist_iff anyAnswers default subvertedSentinel true
  obtain ⟨drafts, first⟩ := round_answered silent waits
  have persists := (persist.1 _ _ _ _ _ _ first).mpr (Or.inr (unanswered_reveals_nothing _))
  have kept := persist.2 _ _ (.single (lossless_unanswered going waits'))
  rw [← firstAnswered] at persists
  rw [← secondUnanswered] at kept
  dsimp only at kept
  -- the states stay closed: elaboration would run them
  generalize firstAnswered = answered at healed kept persists ⊢
  generalize secondUnanswered = unanswered at kept ⊢
  obtain ⟨subverted, _⟩ := healed
  exact ⟨persists, subverted, kept subverted⟩

theorem compromised_sentinel_healed : ∃ drafts later asked,
    Rounds anyAnswers default subvertedSentinel true
      (buildWorld default default subvertedSentinel).1 () drafts firstAnswered () ∧
    isFinished firstAnswered subvertedSentinel = false ∧
    Round anyAnswers default subvertedSentinel true firstAnswered () later secondAnswered ()
      asked ∧
    "sentinel-000" ∈ firstAnswered.compromisedGraphNodes ∧
    "sentinel-000" ∉ secondAnswered.compromisedGraphNodes := by
  obtain ⟨waits, waits', starts, going, healed⟩ := subverted_ticks
  have telling : ∀ attempts, (revealed attempts).length = attempts.length :=
    fun _ => List.length_map _
  obtain ⟨drafts, round⟩ := round_answered silent waits
  obtain ⟨later, round'⟩ := round_answered telling waits'
  exact ⟨_, later, _, Rounds.none.next starts round, going, round', healed⟩

end AgentShield.Scenarios
