import AgentShield.Engine.Topology
import AgentShield.Scenarios.Rounds

/-!
The types of the events a tick may publish, by who publishes them. None of them
starts or stops an experiment.
-/
namespace AgentShield.Scenarios
open Schema Engine Agents TopologyBuilder

def attackTypes : List EventType :=
  [.compromiseAttempted, .compromiseSucceeded, .compromiseFailed]

def modelTypes : List EventType := [.modelRequested, .modelResponded, .toolExecuted]

def planeTypes : List EventType :=
  [.policyViolation, .threatSignaturePublished, .attestationIssued, .attestationVerified]

def detectionTypes : List EventType := [.anomalyDetected, .agentQuarantined]

def tickTypes : List EventType := attackTypes ++ modelTypes ++ planeTypes ++ detectionTypes

theorem attacks_apart : ∀ type ∈ attackTypes, type ∉ planeTypes := by decide

def Says (types : List EventType) (drafts : List EventDraft) : Prop :=
  ∀ d ∈ drafts, d.eventType ∈ types

section
variable {types : List EventType}

theorem says_none : Says types [] := by
  intro d member
  cases member

theorem says_append {first later : List EventDraft} (said : Says types first)
    (more : Says types later) : Says types (first ++ later) := by
  intro d member
  rcases List.mem_append.mp member with old | new
  · exact said d old
  · exact more d new

theorem says_concat {drafts : List EventDraft} (said : Says types drafts) {draft : EventDraft}
    (type : draft.eventType ∈ types) : Says types (drafts ++ [draft]) := by
  apply says_append said
  intro d member
  rw [List.mem_singleton.mp member]
  exact type

theorem says_among {wider : List EventType} (among : types ⊆ wider) {drafts : List EventDraft}
    (said : Says types drafts) : Says wider drafts :=
  fun d member => among (said d member)

/- A loop says what each round of it says; `draftsOf` finds them among its accumulators. -/
theorem says_loop {α σ : Type} (draftsOf : σ → List EventDraft) {round : σ → α → σ}
    (each : ∀ acc item, Says types (draftsOf acc) → Says types (draftsOf (round acc item)))
    (items : List α) {acc : σ} (said : Says types (draftsOf acc)) :
    Says types (draftsOf (items.foldl round acc)) := by
  induction items generalizing acc with
  | nil => exact said
  | cons item rest ih => exact ih (each acc item said)

theorem succeed_tells (attacks : attackTypes ⊆ types) {attack : Attack}
    (said : Says types attack.drafts) (tick : Nat) (source target : String)
    (metadata : Metadata) : Says types (attack.succeed tick source target metadata).drafts := by
  unfold Attack.succeed
  split
  · exact says_concat said (attacks (by decide : EventType.compromiseSucceeded ∈ attackTypes))
  · exact says_concat said (attacks (by decide : EventType.compromiseSucceeded ∈ attackTypes))

theorem attempt_tells {attack : Attack} (said : Says attackTypes attack.drafts) (tick : Nat)
    (source target : String) (metadata : Metadata) (hit : Bool) :
    Says attackTypes (attack.attempt tick source target metadata hit).drafts := by
  have attempted : Says attackTypes (attack.record
      (Attack.draft .compromiseAttempted tick source target metadata)).drafts :=
    says_concat said (by simp [Attack.draft, attackTypes])
  unfold Attack.attempt
  cases hit with
  | true => exact succeed_tells (List.Subset.refl _) attempted tick source target metadata
  | false => exact says_concat attempted (by simp [Attack.draft, attackTypes])

end

theorem propagation_tells (rng : Rng) (state : WorldState) (config : ExperimentConfig) :
    Says attackTypes (Propagation.step rng state config).2 := by
  refine says_loop Attack.drafts ?_ _ says_none
  intro attack source said
  refine says_loop Attack.drafts ?_ _ said
  intro attack target said
  unfold Propagation.attemptOn
  split
  · exact said
  · exact attempt_tells said _ _ _ _ _

theorem adaptiveAttacker_tells (rng : Rng) (state : WorldState) (config : ExperimentConfig) :
    Says attackTypes (AdaptiveAttacker.step rng state config).2 := by
  refine says_loop Attack.drafts ?_ _ says_none
  intro attack source said
  unfold AdaptiveAttacker.attackFrom
  split
  · exact said
  · exact attempt_tells said _ _ _ _ _

theorem conclude_tells {attack : Attack} (said : Says (attackTypes ++ modelTypes) attack.drafts)
    (tick : Nat) (entry : Attempt × Option ModelResponse) :
    Says (attackTypes ++ modelTypes) (conclude tick attack entry).drafts := by
  obtain ⟨attempt, response⟩ := entry
  unfold conclude
  cases response with
  | none => exact says_concat said (by simp [Attack.draft, attackTypes])
  | some response =>
    have answered : ∀ requested responded attempted : EventDraft,
        requested.eventType = .modelRequested → responded.eventType = .modelResponded →
        attempted.eventType = .compromiseAttempted → Says (attackTypes ++ modelTypes)
          (((attack.record requested).record responded).record attempted).drafts := by
      intro requested responded attempted first second third
      refine says_concat (says_concat (says_concat said ?_) ?_) ?_
      · simp [first, modelTypes]
      · simp [second, modelTypes]
      · simp [third, attackTypes]
    dsimp only
    split
    · apply succeed_tells (List.subset_append_left _ _)
      exact says_concat (answered _ _ _ rfl rfl rfl) (by simp [Attempt.draft, modelTypes])
    · exact says_concat (answered _ _ _ rfl rfl rfl) (by simp [Attack.draft, attackTypes])

theorem realAgentStep_tells (state : WorldState) (tick : Nat) (attempts : List Attempt)
    (responses : List (Option ModelResponse)) :
    Says (attackTypes ++ modelTypes) (realAgentStep state tick attempts responses).2 := by
  rw [realAgentStep_drafts]
  refine says_loop Attack.drafts ?_ _ says_none
  intro attack entry said
  exact conclude_tells said tick entry

theorem sentinelCompromise_tells (rng : Rng) (state : WorldState) (config : ExperimentConfig) :
    Says planeTypes (SentinelCompromise.step rng state config).2 := by
  unfold SentinelCompromise.step
  split
  · exact says_none
  · dsimp only
    split
    · exact says_none
    · apply says_append
      · refine says_loop Prod.fst ?_ _ says_none
        intro acc sentinel said
        unfold SentinelCompromise.visit
        split
        · exact said
        · split
          · exact said
          · dsimp only
            split
            · exact says_concat said (by simp [SentinelCompromise.subvertedDraft, planeTypes])
            · exact said
      · intro d member
        obtain ⟨id, _, rfl⟩ := List.mem_map.mp member
        simp [SentinelCompromise.poisonedDraft, planeTypes]

theorem attestation_tells (rng : Rng) (state : WorldState) (config : ExperimentConfig) :
    Says planeTypes (Attestation.step rng state config).2 := by
  unfold Attestation.step
  split
  · exact says_none
  · dsimp only
    split
    · intro d member
      obtain ⟨agent, _, inside⟩ := List.mem_flatMap.mp member
      simp only [Attestation.attest, List.mem_cons, List.not_mem_nil, or_false] at inside
      rcases inside with rfl | rfl
      · simp [Attestation.issuedDraft, planeTypes]
      · simp [Attestation.verifiedDraft, planeTypes]
    · exact says_none

theorem byzantineCollusion_tells (rng : Rng) (state : WorldState) (config : ExperimentConfig) :
    Says planeTypes (ByzantineCollusion.step rng state config).2 := by
  unfold ByzantineCollusion.step
  split
  · exact says_none
  · dsimp only
    split
    · exact says_none
    · split
      · exact says_none
      · refine says_loop Prod.fst ?_ _ says_none
        intro acc pair said
        unfold ByzantineCollusion.collude
        split
        · exact said
        · exact says_concat said (by simp [ByzantineCollusion.violationDraft, planeTypes])

theorem detection_tells (rng : Rng) (state : WorldState) (config : ExperimentConfig) :
    Says detectionTypes (Detection.step rng state config).2 := by
  unfold Detection.step
  split
  · exact says_none
  · apply says_append
    · intro d member
      obtain ⟨node, _, inside⟩ := List.mem_flatMap.mp member
      simp only [List.mem_cons, List.not_mem_nil, or_false] at inside
      rcases inside with rfl | rfl
      · simp [Detection.anomalyDraft, detectionTypes]
      · simp [Detection.quarantinedDraft, detectionTypes]
    · intro d member
      obtain ⟨node, _, rfl⟩ := List.mem_map.mp member
      simp [Detection.quarantinedDraft, detectionTypes]

/-- What is registered: the two attackers, and scenarios of the security plane. -/
theorem registered_tells {name : String} {step : Scenario}
    (found : syncScenarios.lookup name = some step) :
    name = "propagation" ∧ step = Propagation.step ∨
      name = "adaptive_attacker" ∧ step = AdaptiveAttacker.step ∨
        ∀ rng state config, Says planeTypes (step rng state config).2 := by
  have member := registered_member found
  simp only [syncScenarios, List.mem_cons, Prod.mk.injEq, List.not_mem_nil, or_false] at member
  rcases member with attacker | attacker | ⟨_, rfl⟩ | ⟨_, rfl⟩ | ⟨_, rfl⟩
  · exact Or.inl attacker
  · exact Or.inr (Or.inl attacker)
  · exact Or.inr (Or.inr sentinelCompromise_tells)
  · exact Or.inr (Or.inr attestation_tells)
  · exact Or.inr (Or.inr byzantineCollusion_tells)

theorem scenario_tells {name : String} {step : Scenario}
    (found : syncScenarios.lookup name = some step) (rng : Rng) (state : WorldState)
    (config : ExperimentConfig) : Says tickTypes (step rng state config).2 := by
  rcases registered_tells found with ⟨_, rfl⟩ | ⟨_, rfl⟩ | plane
  · exact says_among (by decide) (propagation_tells rng state config)
  · exact says_among (by decide) (adaptiveAttacker_tells rng state config)
  · exact says_among (by decide) (plane rng state config)

theorem advance_tells (rng : Rng) (state : WorldState) (config : ExperimentConfig) :
    Says tickTypes (advance rng state config).2 := by
  have scenarios : Says tickTypes (runSyncScenarios rng state config).2 := by
    refine says_loop Prod.snd ?_ _ says_none
    intro acc name said
    unfold runSyncScenario
    split
    · exact said
    · rename_i step found
      exact says_append said (scenario_tells found rng acc.1 config)
  exact says_append scenarios (says_among (by decide) (detection_tells rng _ config))

def AsyncRun.said : AsyncRun → List EventDraft
  | .finished _ drafts => drafts
  | .gathering locals => locals.drafts

theorem runAsyncScenarios_said {config : ExperimentConfig} {tick : Nat} (names : List String)
    (state : WorldState) (drafts : List EventDraft) :
    (runAsyncScenarios config tick names state drafts).said = drafts := by
  induction names with
  | nil => rfl
  | cons name rest ih =>
    unfold runAsyncScenarios
    split
    · split
      · exact ih
      · rfl
    · exact ih

theorem resume_tells {config : ExperimentConfig} {tick : Nat} {locals : Gathering}
    (said : Says tickTypes locals.drafts) (responses : List (Option ModelResponse)) :
    Says tickTypes (locals.resume config tick responses).said := by
  unfold Gathering.resume
  rw [runAsyncScenarios_said]
  exact says_append said (says_among (by decide)
    (realAgentStep_tells locals.state tick locals.attempts responses))

theorem says_unstopped {drafts : List EventDraft} (said : Says tickTypes drafts) :
    ∀ d ∈ drafts, d.eventType ≠ .experimentStopped := by
  intro d member type
  have listed := said d member
  rw [type] at listed
  revert listed
  decide

theorem buildWorld_unstopped (rng : Rng) (networkx : Networkx) (config : ExperimentConfig) :
    ∀ d ∈ (buildWorld rng networkx config).2, d.eventType ≠ .experimentStopped := by
  intro d member
  rcases List.mem_append.mp member with created | seeded
  · obtain ⟨entry, _, rfl⟩ := List.mem_map.mp created
    simp [createdDraft]
  · rw [List.mem_singleton.mp seeded]
    simp [seededDraft]

end AgentShield.Scenarios
