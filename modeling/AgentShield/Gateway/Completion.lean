import AgentShield.Gateway.Admission

/-!
Every call comes to an end. A measure that each step of a call lowers, and a step for as
long as a call is left, give the number of calls that the budget lets in.
-/
namespace AgentShield.Gateway
open Asyncio

/-- The steps that a call may still take. -/
def Call.remaining (limits : Limits) (call : Call) : Nat :=
  match call.place with
  | .queued => 2 * limits.maxRetries + 2
  | .calling attempt => 2 * (limits.maxRetries - attempt) + 1
  | .backingOff attempt => 2 * (limits.maxRetries - attempt)
  | .over_ _ => 0

namespace GatewayRun

def remaining (limits : Limits) (c : GatewayRun) : Nat :=
  (c.calls.map (Call.remaining limits)).sum

def Settled (c : GatewayRun) : Prop := ∀ call ∈ c.calls, call.isOver = true

def Uncancelled (c : GatewayRun) : Prop :=
  (∀ call ∈ c.calls, call.place ≠ .over_ .cancelled) ∧ .cancelled ∉ c.semaphore.waiters

end GatewayRun

theorem sum_insert {α : Type} (f : α → Nat) (before after : List α) (x : α) :
    ((before ++ x :: after).map f).sum = ((before ++ after).map f).sum + f x := by
  simp only [List.map_append, List.map_cons, List.sum_append, List.sum_cons]
  omega

theorem exists_split_countP {α : Type} {p : α → Bool} {n : Nat} {l : List α}
    (enough : n < l.countP p) :
    ∃ before x after, l = before ++ x :: after ∧ p x = true ∧ before.countP p = n := by
  induction l generalizing n with
  | nil => cases enough
  | cons x rest ih =>
    rw [List.countP_cons] at enough
    cases own : p x with
    | false =>
      rw [own] at enough
      obtain ⟨before, y, after, split, found, count⟩ := ih enough
      refine ⟨x :: before, y, after, by rw [split, List.cons_append], found, ?_⟩
      rw [List.countP_cons, own, count]
      rfl
    | true =>
      rw [own, if_pos rfl] at enough
      cases n with
      | zero => exact ⟨[], x, rest, rfl, own, rfl⟩
      | succ n =>
        obtain ⟨before, y, after, split, found, count⟩ := ih (Nat.lt_of_succ_lt_succ enough)
        refine ⟨x :: before, y, after, by rw [split, List.cons_append], found, ?_⟩
        rw [List.countP_cons, own, count, if_pos rfl]

section
variable {limits : Limits} {c c' : GatewayRun} {before after : List Call} {call : Call}

theorem insert_remaining (split : c.calls = before ++ call :: after) {call' : Call}
    (less : call'.remaining limits < call.remaining limits) (semaphore : Semaphore) (used : Nat) :
    (⟨semaphore, used, before ++ call' :: after⟩ : GatewayRun).remaining limits <
      c.remaining limits := by
  simp only [GatewayRun.remaining, split, sum_insert]
  exact Nat.add_lt_add_left less _

theorem advance_remaining (sound : GatewaySound limits c) (step : Advance limits c c') :
    c'.remaining limits < c.remaining limits := by
  cases step with
  | granted split place queue same =>
    unfold GatewayRun.enter
    split
    · exact insert_remaining split (by simp [Call.remaining, place]) _ _
    · exact insert_remaining split (by simp [Call.remaining, place]) _ _
  | answers split place => exact insert_remaining split (by simp [Call.remaining, place]) _ _
  | raises split place => exact insert_remaining split (by simp [Call.remaining, place]) _ _
  | givesUp split place => exact insert_remaining split (by simp [Call.remaining, place]) _ _
  | backsOff split place again =>
    exact insert_remaining split (by simp [Call.remaining, place]) _ _
  | retries split place =>
    -- a call that backs off has an attempt left
    have own := sound_of_split sound split
    unfold Call.Sound at own
    rw [place] at own
    apply insert_remaining split
    simp only [Call.remaining, place]
    omega

theorem insert_length {α : Type} (before after : List α) (x y : α) :
    (before ++ x :: after).length = (before ++ y :: after).length := by
  simp only [List.length_append, List.length_cons]

theorem advance_length (step : Advance limits c c') : c'.calls.length = c.calls.length := by
  cases step with
  | granted split place queue same =>
    unfold GatewayRun.enter
    split <;> exact split ▸ insert_length _ _ _ _
  | answers split place => exact split ▸ insert_length _ _ _ _
  | raises split place => exact split ▸ insert_length _ _ _ _
  | givesUp split place => exact split ▸ insert_length _ _ _ _
  | backsOff split place again => exact split ▸ insert_length _ _ _ _
  | retries split place => exact split ▸ insert_length _ _ _ _

theorem insert_uncancelled {semaphore : Semaphore} {used : Nat} (whole : c.Uncancelled)
    (split : c.calls = before ++ call :: after) {call' : Call}
    (own : call'.place ≠ .over_ .cancelled)
    (waiters : .cancelled ∈ semaphore.waiters → .cancelled ∈ c.semaphore.waiters) :
    (⟨semaphore, used, before ++ call' :: after⟩ : GatewayRun).Uncancelled := by
  constructor
  · intro other member
    rcases mem_insert.mp member with rfl | there
    · exact own
    · exact whole.1 other (split ▸ mem_insert.mpr (Or.inr there))
  · exact fun cancelled => whole.2 (waiters cancelled)

theorem leave_waiters {s : Semaphore} {first rest : List Future} {future : Future}
    (queue : s.waiters = first ++ future :: rest) (refund : Nat)
    (cancelled : .cancelled ∈ (s.leave first rest refund).waiters) :
    .cancelled ∈ s.waiters := by
  rw [queue]
  exact mem_insert.mpr (Or.inr ((wakeWaiters_cancelled _ _).mp cancelled))

theorem advance_uncancelled (whole : c.Uncancelled) (step : Advance limits c c') :
    c'.Uncancelled := by
  cases step with
  | @granted _ _ _ first rest split place queue same =>
    have left := leave_waiters queue 0
    unfold GatewayRun.enter
    split
    · apply insert_uncancelled whole split
      · simp
      · exact fun cancelled => left ((Semaphore.release_cancelled _).mp cancelled)
    · exact insert_uncancelled whole split (by simp) left
  | answers split place =>
    exact insert_uncancelled whole split (by simp) (Semaphore.release_cancelled _).mp
  | raises split place =>
    exact insert_uncancelled whole split (by simp) (Semaphore.release_cancelled _).mp
  | givesUp split place =>
    exact insert_uncancelled whole split (by simp) (Semaphore.release_cancelled _).mp
  | backsOff split place again => exact insert_uncancelled whole split (by simp) id
  | retries split place => exact insert_uncancelled whole split (by simp) id

theorem not_over {call : Call} (left : call.isOver = false) :
    call.isQueued = true ∨ call.isHolding = true := by
  unfold Call.isOver at left
  unfold Call.isQueued Call.isHolding
  cases place : call.place with
  | queued => exact Or.inl rfl
  | calling attempt => exact Or.inr rfl
  | backingOff attempt => exact Or.inr rfl
  | over_ ending =>
    rw [place] at left
    cases left

theorem holding_advances (member : call ∈ c.calls) (holding : call.isHolding = true) :
    ∃ c', Advance limits c c' := by
  obtain ⟨before, after, split⟩ := List.append_of_mem member
  unfold Call.isHolding at holding
  split at holding
  · rename_i attempt place
    exact ⟨_, .answers split place⟩
  · rename_i attempt place
    exact ⟨_, .retries split place⟩
  · cases holding

theorem waiter_granted {s : Semaphore} (fair : s.Fair) (free : 0 < s.permits)
    (waits : 0 < s.waiters.length) (whole : .cancelled ∉ s.waiters) : .granted ∈ s.waiters := by
  rcases fair with none | idle | granted
  · unfold Semaphore.permits at free
    rw [none, Nat.zero_add] at free
    exact List.count_pos_iff.mp free
  · obtain ⟨future, member⟩ := List.exists_mem_of_length_pos waits
    cases future with
    | pending => exact absurd member idle
    | granted => exact member
    | cancelled => exact absurd member whole
  · exact granted

theorem advances_until_settled (sound : GatewaySound limits c) (whole : c.Uncancelled)
    (left : ¬ c.Settled) : ∃ c', Advance limits c c' := by
  simp only [GatewayRun.Settled, not_forall] at left
  obtain ⟨call, member, running⟩ := left
  by_cases held : ∃ call ∈ c.calls, call.isHolding = true
  · obtain ⟨holder, there, holding⟩ := held
    exact holding_advances there holding
  · -- nobody has a permit, so one of those that wait was granted one
    have queued : call.isQueued = true := by
      rcases not_over (Bool.eq_false_iff.mpr running) with queued | holding
      · exact queued
      · exact absurd ⟨call, member, holding⟩ held
    have none : c.holding = 0 := by
      apply List.countP_eq_zero.mpr
      intro other there holding
      exact held ⟨other, there, holding⟩
    have free : 0 < c.semaphore.permits := by
      have permits := sound.permits
      have positive := limits.positive
      omega
    have waits : 0 < c.semaphore.waiters.length := by
      rw [← sound.queue]
      exact List.countP_pos_iff.mpr ⟨call, member, queued⟩
    obtain ⟨first, rest, queue⟩ :=
      List.append_of_mem (waiter_granted sound.fair free waits whole.2)
    have enough : first.length < c.calls.countP Call.isQueued := by
      rw [sound.queue, queue, List.length_append, List.length_cons]
      omega
    obtain ⟨before, next, after, split, waiting, same⟩ := exists_split_countP enough
    exact ⟨_, .granted split (beq_iff_eq.mp waiting) queue same⟩

theorem settled_admitted (sound : GatewaySound limits c) (whole : c.Uncancelled)
    (settled : c.Settled) : c.admitted = min c.calls.length limits.budget := by
  have most : c.admitted ≤ c.calls.length := List.countP_le_length
  have used := sound.used
  have budget := sound.budget
  by_cases heeded : ∃ call ∈ c.calls, call.place = .over_ .refused
  · have spent := sound.refused heeded
    omega
  · have everyone : c.admitted = c.calls.length := by
      apply List.countP_eq_length.mpr
      intro call member
      by_contra out
      have own := sound.calls call member
      unfold Call.Sound at own
      cases place : call.place with
      | over_ ending =>
        rw [place] at own
        rcases own.2 (Bool.eq_false_iff.mpr out) with rfl | rfl
        · exact heeded ⟨call, member, place⟩
        · exact whole.1 call member place
      | queued => simpa [Call.isOver, place] using settled call member
      | calling attempt => simpa [Call.isOver, place] using settled call member
      | backingOff attempt => simpa [Call.isOver, place] using settled call member
    omega

theorem call_invocations (own : call.Sound limits) :
    call.invocations ≤ if call.admitted then limits.maxRetries + 1 else 0 := by
  unfold Call.Sound at own
  cases place : call.place with
  | queued =>
    rw [place] at own
    rw [own.2]
    exact Nat.zero_le _
  | calling attempt =>
    rw [place] at own
    rw [own.1, if_pos rfl]
    omega
  | backingOff attempt =>
    rw [place] at own
    rw [own.1, if_pos rfl]
    omega
  | over_ ending =>
    rw [place] at own
    exact own.1

theorem sum_le_countP {α : Type} {f : α → Nat} {p : α → Bool} {most : Nat} {l : List α}
    (each : ∀ x ∈ l, f x ≤ if p x then most else 0) : (l.map f).sum ≤ l.countP p * most := by
  induction l with
  | nil => exact Nat.zero_le _
  | cons x rest ih =>
    have own := each x List.mem_cons_self
    have others := ih fun y member => each y (List.mem_cons_of_mem x member)
    rw [List.map_cons, List.sum_cons, List.countP_cons]
    split at own
    · rename_i counts
      rw [if_pos counts, Nat.add_mul, Nat.one_mul]
      omega
    · rename_i free
      rw [if_neg free, Nat.add_zero]
      omega

theorem invocations_bounded (sound : GatewaySound limits c) :
    c.invocations ≤ limits.budget * (limits.maxRetries + 1) := by
  have admitted : c.admitted ≤ limits.budget := sound.used ▸ sound.budget
  calc c.invocations ≤ c.admitted * (limits.maxRetries + 1) :=
        sum_le_countP fun call member => call_invocations (sound.calls call member)
    _ ≤ limits.budget * (limits.maxRetries + 1) := Nat.mul_le_mul_right _ admitted

theorem inFlight_bounded (sound : GatewaySound limits c) :
    c.inFlight ≤ limits.maxConcurrency := by
  have held : c.inFlight ≤ c.holding := by
    apply List.countP_mono_left
    intro call member calling
    unfold Call.isCalling at calling
    unfold Call.isHolding
    split at calling
    · rename_i place
      rw [place]
    · cases calling
  have permits := sound.permits
  omega

end

theorem new_sound (limits : Limits) : GatewaySound limits (.new limits) := by
  constructor
  · rfl
  · exact Or.inr (Or.inl List.not_mem_nil)
  · rfl
  · rfl
  · exact Nat.zero_le _
  · exact fun call member => absurd member List.not_mem_nil
  · rintro ⟨call, member, place⟩
    exact absurd member List.not_mem_nil

theorem gateway_sound {limits : Limits} {c : GatewayRun} (reachable : GatewayReachable limits c) :
    GatewaySound limits c := by
  induction reachable with
  | refl => exact new_sound limits
  | tail _ step ih => exact gatewayStep_sound ih step

/-- At any interleaving: the budget and the permits hold, and calls that nobody cancels run to
    their end, as many of them admitted as there were or as the budget has. -/
theorem gateway_admission (limits : Limits) (c : GatewayRun)
    (reachable : GatewayReachable limits c) :
    c.admitted = c.used ∧
    c.used ≤ limits.budget ∧
    c.inFlight ≤ limits.maxConcurrency ∧
    c.invocations ≤ limits.budget * (limits.maxRetries + 1) ∧
    (c.Uncancelled →
      (c.Settled → c.admitted = min c.calls.length limits.budget) ∧
      (¬ c.Settled → ∃ c', Advance limits c c') ∧
      ∀ c', Advance limits c c' →
        c'.remaining limits < c.remaining limits ∧
        c'.calls.length = c.calls.length ∧
        c'.Uncancelled) := by
  have sound := gateway_sound reachable
  refine ⟨sound.used, sound.budget, inFlight_bounded sound, invocations_bounded sound, ?_⟩
  intro whole
  refine ⟨settled_admitted sound whole, advances_until_settled sound whole, ?_⟩
  intro c' step
  exact ⟨advance_remaining sound step, advance_length step, advance_uncancelled whole step⟩

def tight : Limits := ⟨1, 1, 1, Nat.one_pos⟩

def answeredAndRefused : GatewayRun where
  semaphore := ⟨1, []⟩
  used := 1
  calls := [⟨.over_ .answered, true, 2⟩, ⟨.over_ .refused, false, 0⟩]

theorem answeredAndRefused_reachable : GatewayReachable tight answeredAndRefused := by
  refine .head (.arrives rfl) ?_
  refine .head (.queues rfl) ?_
  refine .head (.advances (@Advance.backsOff _ _ [] _ _ _ rfl rfl (by decide))) ?_
  refine .head (.advances (@Advance.retries _ _ [] _ _ _ rfl rfl)) ?_
  refine .head (.advances (@Advance.answers _ _ [] _ _ _ rfl rfl)) ?_
  have last : Advance tight ⟨⟨0, [.granted]⟩, 1, [⟨.over_ .answered, true, 2⟩, .new]⟩
      answeredAndRefused :=
    @Advance.granted tight ⟨⟨0, [.granted]⟩, 1, [⟨.over_ .answered, true, 2⟩, .new]⟩
      [⟨.over_ .answered, true, 2⟩] [] .new [] [] rfl rfl rfl rfl
  exact .single (.advances last)

theorem answeredAndRefused_admitted :
    answeredAndRefused.inFlight ≤ 1 ∧ answeredAndRefused.admitted = min 2 1 := by
  obtain ⟨-, -, flight, -, whole⟩ :=
    gateway_admission tight answeredAndRefused answeredAndRefused_reachable
  obtain ⟨settled, -, -⟩ := whole (by simp [GatewayRun.Uncancelled, answeredAndRefused])
  exact ⟨flight, settled (by simp [GatewayRun.Settled, answeredAndRefused, Call.isOver])⟩

end AgentShield.Gateway
