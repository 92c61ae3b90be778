import Mathlib.Logic.Basic

/-!
Runs of a step function: what holds in every state of a run, and of every step taken.
-/
namespace Trace
variable {σ α : Type} (step : σ → α → Option σ)

def Visits (P : σ → Prop) : σ → List α → Prop
  | s, [] => P s
  | s, a :: rest => P s ∧ ∀ s', step s a = some s' → Visits P s' rest

def Takes (Q : σ → α → Prop) : σ → List α → Prop
  | _, [] => True
  | s, a :: rest => ∀ s', step s a = some s' → Q s a ∧ Takes Q s' rest

variable {step} {P Bound Inv : σ → Prop} {Q U : σ → α → Prop}

theorem visits_now {s : σ} {actions : List α} (visits : Visits step P s actions) : P s := by
  cases actions with
  | nil => exact visits
  | cons a rest => exact visits.1

/-- Where each step leaves a fine state exactly if it meets the condition, and then keeps the
    invariant, the states of a run are all fine exactly if its steps all meet the condition. -/
theorem visits_iff_takes (fine : ∀ s, Inv s → P s)
    (each : ∀ s a s', Inv s → Bound s' → step s a = some s' →
      (P s' ↔ Q s a) ∧ (Q s a → Inv s'))
    {actions : List α} : ∀ {s : σ}, Inv s → Visits step Bound s actions →
      (Visits step P s actions ↔ Takes step Q s actions) := by
  induction actions with
  | nil =>
    intro s inv bounded
    exact iff_of_true (fine s inv) trivial
  | cons a rest ih =>
    intro s inv bounded
    constructor
    · intro visits s' stepped
      have later := visits.2 s' stepped
      have bounded' := bounded.2 s' stepped
      obtain ⟨same, kept⟩ := each s a s' inv (visits_now bounded') stepped
      have meets := same.mp (visits_now later)
      exact ⟨meets, (ih (kept meets) bounded').mp later⟩
    · intro takes
      refine ⟨fine s inv, ?_⟩
      intro s' stepped
      obtain ⟨meets, later⟩ := takes s' stepped
      have bounded' := bounded.2 s' stepped
      obtain ⟨_, kept⟩ := each s a s' inv (visits_now bounded') stepped
      exact (ih (kept meets) bounded').mpr later

theorem takes_of_takes
    (each : ∀ s a s', Inv s → Bound s' → step s a = some s' → U s a → Q s a ∧ Inv s')
    {actions : List α} : ∀ {s : σ}, Inv s → Visits step Bound s actions →
      Takes step U s actions → Takes step Q s actions := by
  induction actions with
  | nil =>
    intro s inv bounded takes
    trivial
  | cons a rest ih =>
    intro s inv bounded takes s' stepped
    obtain ⟨meets, later⟩ := takes s' stepped
    have bounded' := bounded.2 s' stepped
    obtain ⟨wanted, kept⟩ := each s a s' inv (visits_now bounded') stepped meets
    exact ⟨wanted, ih kept bounded' later⟩

instance decideVisits [DecidablePred P] : ∀ (s : σ) (actions : List α),
    Decidable (Visits step P s actions)
  | s, [] => inferInstanceAs (Decidable (P s))
  | s, a :: rest => match stepped : step s a with
    | none => decidable_of_iff (P s) (by simp [Visits, stepped])
    | some s' =>
      have : Decidable (Visits step P s' rest) := decideVisits s' rest
      decidable_of_iff (P s ∧ Visits step P s' rest) (by simp [Visits, stepped])

instance decideTakes [∀ s a, Decidable (Q s a)] : ∀ (s : σ) (actions : List α),
    Decidable (Takes step Q s actions)
  | _, [] => .isTrue trivial
  | s, a :: rest => match stepped : step s a with
    | none => .isTrue (by simp [Takes, stepped])
    | some s' =>
      have : Decidable (Takes step Q s' rest) := decideTakes s' rest
      decidable_of_iff (Q s a ∧ Takes step Q s' rest) (by simp [Takes, stepped])

end Trace
