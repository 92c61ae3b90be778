import Mathlib.Data.Nat.Find
import Mathlib.Logic.Function.Iterate

/-!
`while` loops: given enough rounds, a loop returns the first state at which its
test fails. Loops that also collect what each round gives out.
-/
namespace Loop
variable {σ δ : Type} {test : σ → Bool} {body : σ → σ}

/- `while test(s): s = body(s)`, given up where it would start one round too many. -/
def whileLoop (test : σ → Bool) (body : σ → σ) : Nat → σ → Option σ
  | 0, s => if test s then none else some s
  | rounds + 1, s => if test s then whileLoop test body rounds (body s) else some s

/-- The loop starts its first `n` rounds. -/
def RunsFor (test : σ → Bool) (body : σ → σ) (n : Nat) (s : σ) : Prop :=
  ∀ k < n, test (body^[k] s) = true

theorem runs_for_zero (s : σ) : RunsFor test body 0 s := by
  intro k below
  exact absurd below (Nat.not_lt_zero k)

theorem runs_for_succ {n : Nat} {s : σ} :
    RunsFor test body (n + 1) s ↔ test s = true ∧ RunsFor test body n (body s) := by
  constructor
  · intro runs
    constructor
    · exact runs 0 (Nat.succ_pos n)
    · intro k below
      exact runs (k + 1) (Nat.succ_lt_succ below)
  · rintro ⟨first, rest⟩ k below
    cases k with
    | zero => exact first
    | succ k => exact rest k (Nat.lt_of_succ_lt_succ below)

/-- What the loop returns, in terms of its rounds. -/
theorem whileLoop_returns_iff {rounds : Nat} {s s' : σ} :
    whileLoop test body rounds s = some s' ↔
      ∃ n ≤ rounds, RunsFor test body n s ∧ test (body^[n] s) = false ∧ body^[n] s = s' := by
  induction rounds generalizing s with
  | zero =>
    unfold whileLoop
    constructor
    · intro returned
      split at returned
      · cases returned
      · rename_i stops
        exact ⟨0, Nat.le_refl 0, runs_for_zero s, Bool.eq_false_iff.mpr stops,
          Option.some.inj returned⟩
    · rintro ⟨n, few, _, stops, rfl⟩
      obtain rfl := Nat.le_zero.mp few
      exact if_neg (Bool.eq_false_iff.mp stops)
  | succ rounds ih =>
    unfold whileLoop
    by_cases going : test s = true
    · rw [if_pos going, ih]
      constructor
      · rintro ⟨n, few, runs, stops, same⟩
        exact ⟨n + 1, Nat.succ_le_succ few, runs_for_succ.mpr ⟨going, runs⟩, stops, same⟩
      · rintro ⟨n, few, runs, stops, same⟩
        cases n with
        | zero =>
          rw [Function.iterate_zero_apply, going] at stops
          cases stops
        | succ n => exact ⟨n, Nat.le_of_succ_le_succ few, (runs_for_succ.mp runs).2, stops, same⟩
    · rw [if_neg going]
      constructor
      · intro returned
        exact ⟨0, Nat.zero_le _, runs_for_zero s, Bool.eq_false_iff.mpr going,
          Option.some.inj returned⟩
      · rintro ⟨n, few, runs, stops, rfl⟩
        cases n with
        | zero => rfl
        | succ n => exact absurd (runs 0 (Nat.succ_pos n)) going

/-- Two loops that start the same rounds and stop together return together. -/
theorem whileLoop_of_rounds {n rounds : Nat} {s : σ} (runs : RunsFor test body n s)
    (stops : test (body^[n] s) = false) (enough : n ≤ rounds) :
    whileLoop test body rounds s = some (body^[n] s) :=
  whileLoop_returns_iff.mpr ⟨n, enough, runs, stops, rfl⟩

def collecting (step : σ → σ × List δ) (acc : σ × List δ) : σ × List δ :=
  ((step acc.1).1, acc.2 ++ (step acc.1).2)

theorem iterate_collecting_fst (step : σ → σ × List δ) (n : Nat) (acc : σ × List δ) :
    ((collecting step)^[n] acc).1 = (fun s => (step s).1)^[n] acc.1 := by
  induction n generalizing acc with
  | zero => rfl
  | succ n ih =>
    rw [Function.iterate_succ_apply, Function.iterate_succ_apply, ih]
    rfl

end Loop
