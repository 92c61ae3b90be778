import Mathlib.Data.List.Count

/-!
A counting semaphore whose waiters are futures in a queue (`asyncio.Semaphore`). A
permit is free, or granted to a waiter that has not run yet, or held. Nothing here
fixes who waits.
-/
namespace Asyncio

inductive Future where
  | pending
  | granted
  | cancelled
  deriving DecidableEq, Repr

structure Semaphore where
  value : Nat
  waiters : List Future

/- `set_result(True)` of the first waiter that is not done. -/
def grantNext : List Future → List Future
  | [] => []
  | .pending :: rest => .granted :: rest
  | future :: rest => future :: grantNext rest

def wakeWaiters : Nat → List Future → Semaphore
  | 0, waiters => ⟨0, waiters⟩
  | value + 1, waiters =>
    if .pending ∈ waiters then wakeWaiters value (grantNext waiters) else ⟨value + 1, waiters⟩

namespace Semaphore

def new (value : Nat) : Semaphore := ⟨value, []⟩

def locked (s : Semaphore) : Bool :=
  s.value == 0 || s.waiters.any fun future => future ≠ .cancelled

/-- `acquire()` that does not wait. -/
def acquire (s : Semaphore) : Semaphore := { s with value := s.value - 1 }

/-- `acquire()` up to its await. -/
def enqueue (s : Semaphore) : Semaphore := { s with waiters := s.waiters ++ [.pending] }

/-- `release()`: at most one waiter is woken. -/
def release (s : Semaphore) : Semaphore :=
  if .pending ∈ s.waiters then { s with waiters := grantNext s.waiters }
  else { s with value := s.value + 1 }

/-- `acquire()` after its await: the future leaves the queue, a permit that came with it goes
    back if the task is cancelled, and whoever may run is woken. -/
def leave (s : Semaphore) (before after : List Future) (refund : Nat) : Semaphore :=
  wakeWaiters (s.value + refund) (before ++ after)

/-- The permits that nobody holds. -/
def permits (s : Semaphore) : Nat := s.value + s.waiters.count .granted

/-- Nobody is left waiting beside a free permit, but for one who runs next. -/
def Fair (s : Semaphore) : Prop :=
  s.value = 0 ∨ .pending ∉ s.waiters ∨ .granted ∈ s.waiters

end Semaphore

theorem grantNext_length (waiters : List Future) :
    (grantNext waiters).length = waiters.length := by
  induction waiters with
  | nil => rfl
  | cons future rest ih => cases future <;> simp [grantNext, ih]

theorem grantNext_granted {waiters : List Future} (waits : .pending ∈ waiters) :
    (grantNext waiters).count .granted = waiters.count .granted + 1 := by
  induction waiters with
  | nil => cases waits
  | cons future rest ih =>
    cases future with
    | pending => simp [grantNext]
    | granted => simp [grantNext, ih (by simpa using waits)]
    | cancelled => simp [grantNext, ih (by simpa using waits)]

theorem grantNext_cancelled {waiters : List Future} :
    .cancelled ∈ grantNext waiters ↔ .cancelled ∈ waiters := by
  induction waiters with
  | nil => rfl
  | cons future rest ih => cases future <;> simp [grantNext, ih]

theorem wakeWaiters_permits (value : Nat) (waiters : List Future) :
    (wakeWaiters value waiters).permits = value + waiters.count .granted := by
  induction value generalizing waiters with
  | zero => rfl
  | succ value ih =>
    unfold wakeWaiters
    split
    · rename_i waits
      rw [ih, grantNext_granted waits]
      omega
    · rfl

theorem wakeWaiters_length (value : Nat) (waiters : List Future) :
    (wakeWaiters value waiters).waiters.length = waiters.length := by
  induction value generalizing waiters with
  | zero => rfl
  | succ value ih =>
    unfold wakeWaiters
    split
    · rw [ih, grantNext_length]
    · rfl

theorem wakeWaiters_cancelled (value : Nat) (waiters : List Future) :
    .cancelled ∈ (wakeWaiters value waiters).waiters ↔ .cancelled ∈ waiters := by
  induction value generalizing waiters with
  | zero => rfl
  | succ value ih =>
    unfold wakeWaiters
    split
    · rw [ih, grantNext_cancelled]
    · rfl

theorem wakeWaiters_fair (value : Nat) (waiters : List Future) :
    (wakeWaiters value waiters).Fair := by
  induction value generalizing waiters with
  | zero => exact Or.inl rfl
  | succ value ih =>
    unfold wakeWaiters
    split
    · exact ih _
    · rename_i idle
      exact Or.inr (Or.inl idle)

namespace Semaphore

theorem unlocked_value {s : Semaphore} (free : s.locked = false) : 0 < s.value := by
  simp only [locked, Bool.or_eq_false_iff, beq_eq_false_iff_ne] at free
  omega

theorem unlocked_idle {s : Semaphore} (free : s.locked = false) : .pending ∉ s.waiters := by
  simp only [locked, Bool.or_eq_false_iff, List.any_eq_false] at free
  intro waits
  exact free.2 _ waits (by decide)

theorem locked_busy {s : Semaphore} (busy : s.locked = true) :
    s.value = 0 ∨ .pending ∈ s.waiters ∨ .granted ∈ s.waiters := by
  simp only [locked, Bool.or_eq_true, beq_iff_eq, List.any_eq_true] at busy
  rcases busy with none | ⟨future, member, live⟩
  · exact Or.inl none
  · cases future with
    | pending => exact Or.inr (Or.inl member)
    | granted => exact Or.inr (Or.inr member)
    | cancelled => simp at live

theorem acquire_permits {s : Semaphore} (free : s.locked = false) :
    s.acquire.permits + 1 = s.permits := by
  have some_ := unlocked_value free
  simp only [permits, acquire]
  omega

theorem acquire_fair {s : Semaphore} (free : s.locked = false) : s.acquire.Fair :=
  Or.inr (Or.inl (unlocked_idle (s := s) free))

theorem enqueue_permits (s : Semaphore) : s.enqueue.permits = s.permits := by
  simp [permits, enqueue]

theorem enqueue_fair {s : Semaphore} (fair : s.Fair) (busy : s.locked = true) :
    s.enqueue.Fair := by
  have grants : .granted ∈ s.waiters → s.enqueue.Fair :=
    fun granted => Or.inr (Or.inr (List.mem_append_left _ granted))
  rcases locked_busy busy with none | waits | granted
  · exact Or.inl none
  · rcases fair with none | idle | granted
    · exact Or.inl none
    · exact absurd waits idle
    · exact grants granted
  · exact grants granted

theorem release_permits (s : Semaphore) : s.release.permits = s.permits + 1 := by
  unfold release
  split
  · rename_i waits
    simp only [permits, grantNext_granted waits]
    omega
  · simp only [permits]
    omega

theorem release_length (s : Semaphore) : s.release.waiters.length = s.waiters.length := by
  unfold release
  split
  · exact grantNext_length s.waiters
  · rfl

theorem release_cancelled (s : Semaphore) :
    .cancelled ∈ s.release.waiters ↔ .cancelled ∈ s.waiters := by
  unfold release
  split
  · exact grantNext_cancelled
  · rfl

theorem release_fair (s : Semaphore) : s.release.Fair := by
  unfold release
  split
  · rename_i waits
    have granted := grantNext_granted waits
    refine Or.inr (Or.inr (List.count_pos_iff.mp ?_))
    show 0 < (grantNext s.waiters).count .granted
    omega
  · rename_i idle
    exact Or.inr (Or.inl idle)

variable {s : Semaphore} {before after : List Future}

theorem leave_permits (refund : Nat) :
    (s.leave before after refund).permits =
      s.value + refund + (before.count .granted + after.count .granted) := by
  rw [leave, wakeWaiters_permits, List.count_append]

theorem permits_split {future : Future} (queue : s.waiters = before ++ future :: after) :
    s.permits = s.value + (before.count .granted + after.count .granted) +
      if future = .granted then 1 else 0 := by
  rw [permits, queue, List.count_append, List.count_cons]
  simp only [beq_iff_eq]
  omega

theorem leave_granted (queue : s.waiters = before ++ .granted :: after) :
    (s.leave before after 0).permits + 1 = s.permits := by
  rw [leave_permits, permits_split queue, if_pos rfl]
  omega

theorem leave_refunded (queue : s.waiters = before ++ .granted :: after) :
    (s.leave before after 1).permits = s.permits := by
  rw [leave_permits, permits_split queue, if_pos rfl]
  omega

theorem leave_cancelled (queue : s.waiters = before ++ .cancelled :: after) :
    (s.leave before after 0).permits = s.permits := by
  rw [leave_permits, permits_split queue, if_neg (by decide)]
  omega

theorem cancel_permits (queue : s.waiters = before ++ .pending :: after) :
    ({ s with waiters := before ++ .cancelled :: after } : Semaphore).permits = s.permits := by
  simp [permits, queue]

theorem cancel_fair (fair : s.Fair) (queue : s.waiters = before ++ .pending :: after) :
    ({ s with waiters := before ++ .cancelled :: after } : Semaphore).Fair := by
  rcases fair with none | idle | granted
  · exact Or.inl none
  · exact absurd (by simp [queue]) idle
  · refine Or.inr (Or.inr ?_)
    rw [queue] at granted
    simpa using granted

end Semaphore

end Asyncio
