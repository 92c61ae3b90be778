import Mathlib.Logic.Relation
import Mathlib.Tactic.Basic

/-!
Cooperative coroutines over one shared state. A coroutine runs without
interference up to its next suspension, where the scheduler may run any other
task; an exception keeps the state reached so far, as in an imperative
language. Nothing here fixes what the state is.
-/
namespace Coop
variable {σ ε δ α β ι : Type}

inductive Outcome (σ ε α : Type) where
  | done (state : σ) (result : Except ε α)
  | suspended (state : σ) (resume : σ → Outcome σ ε α)

structure Coro (σ ε α : Type) where
  run : σ → Outcome σ ε α

def Outcome.bind (o : Outcome σ ε α) (next : α → Coro σ ε β) : Outcome σ ε β :=
  match o with
  | .done s (.ok a) => (next a).run s
  | .done s (.error e) => .done s (.error e)
  | .suspended s resume => .suspended s fun s' => (resume s').bind next

/-- `await` of something that is not ready: the only place another task may run. -/
def suspend : Coro σ ε Unit := ⟨fun s => .suspended s fun s' => .done s' (.ok ())⟩

def raise (e : ε) : Coro σ ε α := ⟨fun s => .done s (.error e)⟩

def getState : Coro σ ε σ := ⟨fun s => .done s (.ok s)⟩

def modifyState (f : σ → σ) : Coro σ ε Unit := ⟨fun s => .done (f s) (.ok ())⟩

instance : Monad (Coro σ ε) where
  pure a := ⟨fun s => .done s (.ok a)⟩
  bind c next := ⟨fun s => (c.run s).bind next⟩

/- `try: ... except E as exc: raise handle(exc) from exc`. -/
def Outcome.translate (handle : ε → δ) : Outcome σ ε α → Outcome σ δ α
  | .done s (.ok a) => .done s (.ok a)
  | .done s (.error e) => .done s (.error (handle e))
  | .suspended s resume => .suspended s fun s' => (resume s').translate handle

def translate (handle : ε → δ) (c : Coro σ ε α) : Coro σ δ α :=
  ⟨fun s => (c.run s).translate handle⟩

/-- The whole run when nobody interferes at the suspensions. -/
def Outcome.finish : Outcome σ ε α → σ × Except ε α
  | .done s r => (s, r)
  | .suspended s resume => (resume s).finish

def exec (c : Coro σ ε α) (s : σ) : σ := (c.run s).finish.1

@[simp] theorem pure_apply (a : α) (s : σ) :
    (pure a : Coro σ ε α).run s = .done s (.ok a) := rfl

@[simp] theorem bind_apply (c : Coro σ ε α) (next : α → Coro σ ε β) (s : σ) :
    (c >>= next).run s = (c.run s).bind next := rfl

@[simp] theorem bind_ok (s : σ) (a : α) (next : α → Coro σ ε β) :
    (Outcome.done s (.ok a)).bind next = (next a).run s := rfl

@[simp] theorem bind_error (s : σ) (e : ε) (next : α → Coro σ ε β) :
    (Outcome.done s (.error e)).bind next = .done s (.error e) := rfl

@[simp] theorem raise_apply (e : ε) (s : σ) :
    (raise e : Coro σ ε α).run s = .done s (.error e) := rfl

@[simp] theorem getState_apply (s : σ) :
    (getState : Coro σ ε σ).run s = .done s (.ok s) := rfl

@[simp] theorem modifyState_apply (f : σ → σ) (s : σ) :
    (modifyState f : Coro σ ε Unit).run s = .done (f s) (.ok ()) := rfl

@[simp] theorem translate_ok (handle : ε → δ) (c : Coro σ ε α) {s s' : σ} {a : α}
    (run : c.run s = .done s' (.ok a)) : (translate handle c).run s = .done s' (.ok a) := by
  simp only [translate, run, Outcome.translate]

@[simp] theorem translate_error (handle : ε → δ) (c : Coro σ ε α) {s s' : σ} {e : ε}
    (run : c.run s = .done s' (.error e)) :
    (translate handle c).run s = .done s' (.error (handle e)) := by
  simp only [translate, run, Outcome.translate]

def Atomic (c : Coro σ ε α) : Prop := ∀ s, ∃ s' r, c.run s = .done s' r

theorem atomic_pure (a : α) : Atomic (pure a : Coro σ ε α) := fun s => ⟨s, .ok a, rfl⟩

theorem atomic_raise (e : ε) : Atomic (raise e : Coro σ ε α) := fun s => ⟨s, .error e, rfl⟩

theorem atomic_getState : Atomic (getState : Coro σ ε σ) := fun s => ⟨s, .ok s, rfl⟩

theorem atomic_modifyState (f : σ → σ) : Atomic (modifyState f : Coro σ ε Unit) :=
  fun s => ⟨f s, .ok (), rfl⟩

theorem atomic_bind {c : Coro σ ε α} {next : α → Coro σ ε β}
    (first : Atomic c) (later : ∀ a, Atomic (next a)) : Atomic (c >>= next) := by
  intro s
  obtain ⟨s', r, run⟩ := first s
  cases r with
  | error e => exact ⟨s', .error e, by rw [bind_apply, run, bind_error]⟩
  | ok a =>
    obtain ⟨s'', r, rest⟩ := later a s'
    exact ⟨s'', r, by rw [bind_apply, run, bind_ok, rest]⟩

theorem atomic_ite {p : Prop} [Decidable p] {c d : Coro σ ε α}
    (yes : Atomic c) (no : Atomic d) : Atomic (if p then c else d) := by
  split
  · exact yes
  · exact no

theorem atomic_translate (handle : ε → δ) {c : Coro σ ε α} (inner : Atomic c) :
    Atomic (translate handle c) := by
  intro s
  obtain ⟨s', r, run⟩ := inner s
  cases r with
  | error e => exact ⟨s', _, translate_error handle c run⟩
  | ok a => exact ⟨s', _, translate_ok handle c run⟩

theorem atomic_exec {c : Coro σ ε α} {s s' : σ} {r : Except ε α} (run : c.run s = .done s' r) :
    exec c s = s' := by
  simp only [exec, run, Outcome.finish]

def ReadOnly (c : Coro σ ε α) : Prop := ∀ s, ∃ r, c.run s = .done s r

theorem readOnly_atomic {c : Coro σ ε α} (h : ReadOnly c) : Atomic c := fun s => ⟨s, h s⟩

theorem exec_then_readOnly {c : Coro σ ε α} (atomic : Atomic c) (handle : ε → δ)
    {next : α → Coro σ δ β} (reads : ∀ a, ReadOnly (next a)) (s : σ) :
    exec (translate handle c >>= next) s = exec c s := by
  obtain ⟨s', r, run⟩ := atomic s
  cases r with
  | error e =>
    rw [atomic_exec run]
    simp only [exec, bind_apply, translate_error handle c run, bind_error, Outcome.finish]
  | ok a =>
    obtain ⟨r, rest⟩ := reads a s'
    rw [atomic_exec run]
    simp only [exec, bind_apply, translate_ok handle c run, bind_ok, rest, Outcome.finish]

theorem exec_passed {c : Coro σ ε α} {s : σ} {a : α} (run : c.run s = .done s (.ok a))
    (next : α → Coro σ ε β) : exec (c >>= next) s = exec (next a) s := by
  simp only [exec, bind_apply, run, bind_ok]

theorem exec_stopped {c : Coro σ ε α} {s : σ} {e : ε} (run : c.run s = .done s (.error e))
    (next : α → Coro σ ε β) : exec (c >>= next) s = s := by
  simp only [exec, bind_apply, run, bind_error, Outcome.finish]

inductive Outcome.Leaves : σ → Outcome σ ε α → Prop where
  | done (s : σ) (r : Except ε α) : Leaves s (.done s r)
  | suspended (s : σ) (resume : σ → Outcome σ ε α) (later : ∀ s', Leaves s' (resume s')) :
      Leaves s (.suspended s resume)

/-- All writes come before the first suspension. -/
def Prompt (c : Coro σ ε α) : Prop :=
  ∀ s, match c.run s with
    | .done _ _ => True
    | .suspended _ resume => ∀ s', (resume s').Leaves s'

theorem atomic_prompt {c : Coro σ ε α} (h : Atomic c) : Prompt c := by
  intro s
  obtain ⟨s', r, run⟩ := h s
  rw [run]
  trivial

theorem leaves_finish {s : σ} {o : Outcome σ ε α} (h : o.Leaves s) : o.finish.1 = s := by
  induction h with
  | done s r => rfl
  | suspended s resume later ih => exact ih s

theorem leaves_dropped {s : σ} {o : Outcome σ ε α} (h : o.Leaves s) :
    (o.bind fun _ => (pure () : Coro σ ε Unit)).Leaves s := by
  induction h with
  | done s r =>
    cases r with
    | error e => exact .done s _
    | ok a => exact .done s _
  | suspended s resume later ih => exact .suspended s _ ih

theorem prompt_dropped {c : Coro σ ε α} (prompt : Prompt c) :
    Prompt (c >>= fun _ => (pure () : Coro σ ε Unit)) := by
  intro s
  have h := prompt s
  rw [bind_apply]
  cases run : c.run s with
  | done s' r => cases r <;> trivial
  | suspended s' resume =>
    rw [run] at h
    exact fun s'' => leaves_dropped (h s'')

theorem finish_dropped (o : Outcome σ ε α) :
    (o.bind fun _ => (pure () : Coro σ ε Unit)).finish.1 = o.finish.1 := by
  induction o with
  | done s r => cases r <;> rfl
  | suspended s resume ih => exact ih s

theorem finish_translate (handle : ε → δ) (o : Outcome σ ε α) :
    (o.translate handle).finish.1 = o.finish.1 := by
  induction o with
  | done s r => cases r <;> rfl
  | suspended s resume ih => exact ih s

theorem exec_translate (handle : ε → δ) (c : Coro σ ε α) (s : σ) :
    exec (translate handle c) s = exec c s :=
  finish_translate handle (c.run s)

theorem exec_dropped (c : Coro σ ε α) (s : σ) :
    exec (c >>= fun _ => (pure () : Coro σ ε Unit)) s = exec c s :=
  finish_dropped (c.run s)

structure Config (σ ε α : Type) where
  state : σ
  tasks : List (σ → Outcome σ ε α)

def settle (tasks : List (σ → Outcome σ ε α)) : Outcome σ ε α → Config σ ε α
  | .done s _ => ⟨s, tasks⟩
  | .suspended s resume => ⟨s, resume :: tasks⟩

inductive Step (handler : ι → Coro σ ε α) : Config σ ε α → Config σ ε α → Prop where
  | arrive (request : ι) (c : Config σ ε α) :
      Step handler c (settle c.tasks ((handler request).run c.state))
  | resume (before after : List (σ → Outcome σ ε α)) (task : σ → Outcome σ ε α) (s : σ) :
      Step handler ⟨s, before ++ task :: after⟩ (settle (before ++ after) (task s))

def Reachable (handler : ι → Coro σ ε α) (start : σ) (c : Config σ ε α) : Prop :=
  Relation.ReflTransGen (Step handler) ⟨start, []⟩ c

/-- One request after the other, each to its end. -/
def serial (handler : ι → Coro σ ε α) (s : σ) (requests : List ι) : σ :=
  requests.foldl (fun s request => exec (handler request) s) s

theorem serial_append (handler : ι → Coro σ ε α) (s : σ) (first later : List ι) :
    serial handler s (first ++ later) = serial handler (serial handler s first) later :=
  List.foldl_append

theorem serial_concat (handler : ι → Coro σ ε α) (s : σ) (requests : List ι) (last : ι) :
    serial handler s (requests ++ [last]) = exec (handler last) (serial handler s requests) := by
  rw [serial_append]
  rfl

theorem settle_prompt {c : Coro σ ε α} (prompt : Prompt c) (s : σ)
    {tasks : List (σ → Outcome σ ε α)} (quiet : ∀ t ∈ tasks, ∀ s, (t s).Leaves s) :
    (settle tasks (c.run s)).state = exec c s ∧
      ∀ t ∈ (settle tasks (c.run s)).tasks, ∀ s, (t s).Leaves s := by
  have h := prompt s
  cases run : c.run s with
  | done s' r => exact ⟨(atomic_exec run).symm, quiet⟩
  | suspended s' resume =>
    rw [run] at h
    refine ⟨?_, ?_⟩
    · simp only [settle, exec, run, Outcome.finish]
      exact (leaves_finish (h s')).symm
    · intro t member
      rcases List.mem_cons.mp member with same | old
      · subst same
        exact h
      · exact quiet t old

theorem settle_leaves {s : σ} {o : Outcome σ ε α} (h : o.Leaves s)
    {tasks : List (σ → Outcome σ ε α)} (quiet : ∀ t ∈ tasks, ∀ s, (t s).Leaves s) :
    (settle tasks o).state = s ∧ ∀ t ∈ (settle tasks o).tasks, ∀ s, (t s).Leaves s := by
  cases h with
  | done s r => exact ⟨rfl, quiet⟩
  | suspended s resume later =>
    refine ⟨rfl, ?_⟩
    intro t member
    rcases List.mem_cons.mp member with same | old
    · subst same
      exact later
    · exact quiet t old

/-- The rule for interleavings of handlers that write only before their first suspension:
    an arriving request runs to its end, and a resumed task leaves the state alone. -/
theorem prompt_induction {handler : ι → Coro σ ε α} (prompt : ∀ i, Prompt (handler i))
    {start : σ} {motive : Config σ ε α → Prop} (init : motive ⟨start, []⟩)
    (arrive : ∀ c c' request, Reachable handler start c → Step handler c c' → motive c →
      c'.state = exec (handler request) c.state → motive c')
    (resume : ∀ c c', Reachable handler start c → Step handler c c' → motive c →
      c'.state = c.state → motive c')
    {c : Config σ ε α} (reach : Reachable handler start c) : motive c := by
  have both : motive c ∧ ∀ t ∈ c.tasks, ∀ s, (t s).Leaves s := by
    induction reach with
    | refl => exact ⟨init, by simp⟩
    | @tail config _ before step ih =>
      obtain ⟨holds, quiet⟩ := ih
      cases step with
      | arrive request =>
        obtain ⟨state, tasks⟩ := settle_prompt (prompt request) config.state quiet
        exact ⟨arrive _ _ request before (.arrive request config) holds state, tasks⟩
      | resume first rest task s =>
        have others : ∀ t ∈ first ++ rest, ∀ s, (t s).Leaves s := by
          intro t member
          refine quiet t ?_
          rcases List.mem_append.mp member with h | h
          · exact List.mem_append_left _ h
          · exact List.mem_append_right _ (List.mem_cons_of_mem _ h)
        obtain ⟨state, tasks⟩ := settle_leaves (quiet task (by simp) s) others
        exact ⟨resume _ _ before (.resume first rest task s) holds state, tasks⟩
  exact both.1

/-- Interleaving adds nothing: the shared state is one that some serial order reaches. -/
theorem prompt_serializes {handler : ι → Coro σ ε α} (prompt : ∀ i, Prompt (handler i))
    {start : σ} {c : Config σ ε α} (reach : Reachable handler start c) :
    ∃ requests, c.state = serial handler start requests := by
  refine prompt_induction (motive := fun c => ∃ requests, c.state = serial handler start requests)
    prompt ⟨[], rfl⟩ ?_ ?_ reach
  · rintro c c' request _ _ ⟨requests, same⟩ state
    exact ⟨requests ++ [request], by rw [state, serial_concat, same]⟩
  · rintro c c' _ _ ⟨requests, same⟩ state
    exact ⟨requests, state.trans same⟩

theorem serial_continues {handler : ι → Coro σ ε α} (prompt : ∀ i, Prompt (handler i)) {start : σ}
    {c : Config σ ε α} (reach : Reachable handler start c)
    (quiet : ∀ t ∈ c.tasks, ∀ s, (t s).Leaves s) (requests : List ι) :
    ∃ c', Reachable handler start c' ∧ c'.state = serial handler c.state requests := by
  induction requests generalizing c with
  | nil => exact ⟨c, reach, rfl⟩
  | cons request rest ih =>
    obtain ⟨ended, quiet'⟩ := settle_prompt (prompt request) c.state quiet
    obtain ⟨c', reach', state⟩ := ih (reach.tail (.arrive request c)) quiet'
    rw [ended] at state
    exact ⟨c', reach', state⟩

/-- And every serial order is an interleaving. -/
theorem serial_reachable {handler : ι → Coro σ ε α} (prompt : ∀ i, Prompt (handler i)) (start : σ)
    (requests : List ι) :
    ∃ c, Reachable handler start c ∧ c.state = serial handler start requests :=
  serial_continues prompt .refl (fun _ member => absurd member List.not_mem_nil) requests

theorem serial_invariant {handler : ι → Coro σ ε α} {inv : σ → Prop} {s : σ} (start : inv s)
    (preserved : ∀ i s, inv s → inv (exec (handler i) s)) (requests : List ι) :
    inv (serial handler s requests) := by
  induction requests generalizing s with
  | nil => exact start
  | cons i rest ih => exact ih (preserved i s start)

theorem serial_replicate {handler : ι → Coro σ ε α} {P : Nat → σ → Prop} {s : σ} (start : P 0 s)
    {i : ι} (each : ∀ n s, P n s → P (n + 1) (exec (handler i) s)) (n : Nat) :
    P n (serial handler s (List.replicate n i)) := by
  induction n with
  | zero => exact start
  | succ n ih =>
    rw [List.replicate_succ', serial_concat]
    exact each n _ ih

theorem serial_guarded {handler : ι → Coro σ ε α} {inv : σ → Prop} {meets : σ → ι → Prop}
    {s : σ} (start : inv s)
    (preserved : ∀ i s, inv s → meets s i → inv (exec (handler i) s)) (requests : List ι)
    (all : ∀ before i after, requests = before ++ i :: after →
      meets (serial handler s before) i) :
    inv (serial handler s requests) := by
  induction requests generalizing s with
  | nil => exact start
  | cons i rest ih =>
    refine ih (preserved i s start (all [] i rest rfl)) ?_
    intro before j after split
    exact all (i :: before) j after (by rw [split]; rfl)

end Coop
