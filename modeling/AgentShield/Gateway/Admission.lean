import Mathlib.Algebra.Order.BigOperators.Group.List
import Mathlib.Algebra.Ring.Nat
import Mathlib.Logic.Relation
import AgentShield.Lib.Semaphore

/-!
Concurrent calls of one gateway (`ModelGateway.complete` of `gateway/gateway.py`): a
permit of the semaphore, the request budget, and a provider that may answer, fail,
time out or be cancelled at every await.
-/
namespace AgentShield.Gateway
open Asyncio

structure Limits where
  maxRetries : Nat
  maxConcurrency : Nat
  budget : Nat
  positive : 0 < maxConcurrency

inductive Ending where
  | answered
  | gaveUp
  | refused
  /- An exception that is neither a `ModelProviderError` nor a `TimeoutError`. -/
  | raised
  | cancelled
  deriving DecidableEq

/-- Where a call of `complete` is: at an await, or over. -/
inductive CallPlace where
  | queued
  | calling (attempt : Nat)
  | backingOff (attempt : Nat)
  | over_ (ending : Ending)
  deriving DecidableEq

structure Call where
  place : CallPlace
  /- History: the call passed the check of the budget. -/
  admitted : Bool
  invocations : Nat
  deriving DecidableEq

namespace Call

def new : Call := ⟨.queued, false, 0⟩

def isQueued (call : Call) : Bool := call.place == .queued

def isCalling (call : Call) : Bool :=
  match call.place with
  | .calling _ => true
  | _ => false

def isHolding (call : Call) : Bool :=
  match call.place with
  | .calling _ => true
  | .backingOff _ => true
  | _ => false

def isOver (call : Call) : Bool :=
  match call.place with
  | .over_ _ => true
  | _ => false

end Call

/-- The gateway and its calls, in the order in which they came; those that wait for the
    semaphore stand in its queue in the same order. -/
structure GatewayRun where
  semaphore : Semaphore
  used : Nat
  calls : List Call

namespace GatewayRun

def new (limits : Limits) : GatewayRun := ⟨.new limits.maxConcurrency, 0, []⟩

/- From the permit on to the first await, or through it: the check and the increment have no
   await between them. -/
def enter (limits : Limits) (semaphore : Semaphore) (used : Nat) (before after : List Call)
    (call : Call) : GatewayRun :=
  if limits.budget ≤ used then
    { semaphore := semaphore.release
      used
      calls := before ++ { call with place := .over_ .refused } :: after }
  else
    { semaphore
      used := used + 1
      calls := before ++ { place := .calling 0, admitted := true, invocations := 1 } :: after }

def finish (c : GatewayRun) (before after : List Call) (call : Call) (ending : Ending) :
    GatewayRun :=
  { c with
    semaphore := c.semaphore.release
    calls := before ++ { call with place := .over_ ending } :: after }

end GatewayRun

/-- The calls' own steps: a permit that was granted, an answer or a failure of the provider,
    the end of a pause. -/
inductive Advance (limits : Limits) : GatewayRun → GatewayRun → Prop where
  | granted {c : GatewayRun} {before after : List Call} {call : Call} {first rest : List Future}
      (split : c.calls = before ++ call :: after) (place : call.place = .queued)
      (queue : c.semaphore.waiters = first ++ .granted :: rest)
      (same : before.countP Call.isQueued = first.length) :
      Advance limits c (.enter limits (c.semaphore.leave first rest 0) c.used before after call)
  | answers {c : GatewayRun} {before after : List Call} {call : Call} {attempt : Nat}
      (split : c.calls = before ++ call :: after) (place : call.place = .calling attempt) :
      Advance limits c (c.finish before after call .answered)
  | raises {c : GatewayRun} {before after : List Call} {call : Call} {attempt : Nat}
      (split : c.calls = before ++ call :: after) (place : call.place = .calling attempt) :
      Advance limits c (c.finish before after call .raised)
  | givesUp {c : GatewayRun} {before after : List Call} {call : Call}
      (split : c.calls = before ++ call :: after)
      (place : call.place = .calling limits.maxRetries) :
      Advance limits c (c.finish before after call .gaveUp)
  | backsOff {c : GatewayRun} {before after : List Call} {call : Call} {attempt : Nat}
      (split : c.calls = before ++ call :: after) (place : call.place = .calling attempt)
      (again : attempt ≠ limits.maxRetries) :
      Advance limits c { c with
        calls := before ++ { call with place := .backingOff attempt } :: after }
  | retries {c : GatewayRun} {before after : List Call} {call : Call} {attempt : Nat}
      (split : c.calls = before ++ call :: after) (place : call.place = .backingOff attempt) :
      Advance limits c { c with
        calls := before ++ { call with
          place := .calling (attempt + 1)
          invocations := call.invocations + 1 } :: after }

/-- One turn: a step of a call, a new call, or a cancellation. -/
inductive GatewayStep (limits : Limits) : GatewayRun → GatewayRun → Prop where
  | advances {c c' : GatewayRun} (step : Advance limits c c') : GatewayStep limits c c'
  | arrives {c : GatewayRun} (free : c.semaphore.locked = false) :
      GatewayStep limits c (.enter limits c.semaphore.acquire c.used c.calls [] .new)
  | queues {c : GatewayRun} (busy : c.semaphore.locked = true) :
      GatewayStep limits c { c with
        semaphore := c.semaphore.enqueue
        calls := c.calls ++ [.new] }
  | cancelsWaiter {c : GatewayRun} {first rest : List Future}
      (queue : c.semaphore.waiters = first ++ .pending :: rest) :
      GatewayStep limits c { c with
        semaphore := { c.semaphore with waiters := first ++ .cancelled :: rest } }
  | leaves {c : GatewayRun} {before after : List Call} {call : Call} {first rest : List Future}
      (split : c.calls = before ++ call :: after) (place : call.place = .queued)
      (queue : c.semaphore.waiters = first ++ .cancelled :: rest)
      (same : before.countP Call.isQueued = first.length) :
      GatewayStep limits c { c with
        semaphore := c.semaphore.leave first rest 0
        calls := before ++ { call with place := .over_ .cancelled } :: after }
  /- The permit was granted, and the task is cancelled before it runs. -/
  | refunds {c : GatewayRun} {before after : List Call} {call : Call} {first rest : List Future}
      (split : c.calls = before ++ call :: after) (place : call.place = .queued)
      (queue : c.semaphore.waiters = first ++ .granted :: rest)
      (same : before.countP Call.isQueued = first.length) :
      GatewayStep limits c { c with
        semaphore := c.semaphore.leave first rest 1
        calls := before ++ { call with place := .over_ .cancelled } :: after }
  | cancels {c : GatewayRun} {before after : List Call} {call : Call}
      (split : c.calls = before ++ call :: after) (holding : call.isHolding = true) :
      GatewayStep limits c (c.finish before after call .cancelled)

/-- Any interleaving of any number of calls. -/
def GatewayReachable (limits : Limits) (c : GatewayRun) : Prop :=
  Relation.ReflTransGen (GatewayStep limits) (.new limits) c

namespace GatewayRun

def inFlight (c : GatewayRun) : Nat := c.calls.countP Call.isCalling

def holding (c : GatewayRun) : Nat := c.calls.countP Call.isHolding

def admitted (c : GatewayRun) : Nat := c.calls.countP Call.admitted

def invocations (c : GatewayRun) : Nat := (c.calls.map Call.invocations).sum

end GatewayRun

def Call.Sound (limits : Limits) (call : Call) : Prop :=
  match call.place with
  | .queued => call.admitted = false ∧ call.invocations = 0
  | .calling attempt => call.admitted = true ∧ call.invocations = attempt + 1 ∧
      attempt ≤ limits.maxRetries
  | .backingOff attempt => call.admitted = true ∧ call.invocations = attempt + 1 ∧
      attempt < limits.maxRetries
  | .over_ ending => call.invocations ≤ (if call.admitted then limits.maxRetries + 1 else 0) ∧
      (call.admitted = false → ending = .refused ∨ ending = .cancelled)

/-- What every turn keeps. -/
structure GatewaySound (limits : Limits) (c : GatewayRun) : Prop where
  permits : c.semaphore.permits + c.holding = limits.maxConcurrency
  fair : c.semaphore.Fair
  queue : c.calls.countP Call.isQueued = c.semaphore.waiters.length
  used : c.admitted = c.used
  budget : c.used ≤ limits.budget
  calls : ∀ call ∈ c.calls, call.Sound limits
  refused : (∃ call ∈ c.calls, call.place = .over_ .refused) → c.used = limits.budget

theorem countP_insert {α : Type} (p : α → Bool) (before after : List α) (x : α) :
    (before ++ x :: after).countP p = (before ++ after).countP p + if p x then 1 else 0 := by
  rw [List.countP_append, List.countP_append, List.countP_cons]
  omega

theorem mem_insert {α : Type} {before after : List α} {x y : α} :
    y ∈ before ++ x :: after ↔ y = x ∨ y ∈ before ++ after := by
  simp only [List.mem_append, List.mem_cons]
  tauto

theorem replace_sound {limits : Limits} {c : GatewayRun} (sound : GatewaySound limits c)
    {before after : List Call} {call call' : Call} (split : c.calls = before ++ call :: after)
    {semaphore : Semaphore}
    (permits : semaphore.permits + (if call'.isHolding then 1 else 0) =
      c.semaphore.permits + if call.isHolding then 1 else 0)
    (fair : semaphore.Fair)
    (queue : semaphore.waiters.length + (if call.isQueued then 1 else 0) =
      c.semaphore.waiters.length + if call'.isQueued then 1 else 0)
    (admitted : call'.admitted = call.admitted) (own : call'.Sound limits)
    (heeded : call'.place ≠ .over_ .refused) :
    GatewaySound limits { c with semaphore, calls := before ++ call' :: after } := by
  have held := sound.permits
  have queued := sound.queue
  have used := sound.used
  simp only [GatewayRun.holding, GatewayRun.admitted, split, countP_insert] at held queued used
  constructor
  · simp only [GatewayRun.holding, countP_insert]
    omega
  · exact fair
  · simp only [countP_insert]
    omega
  · simp only [GatewayRun.admitted, countP_insert, admitted]
    exact used
  · exact sound.budget
  · intro other member
    rcases mem_insert.mp member with rfl | there
    · exact own
    · exact sound.calls other (split ▸ mem_insert.mpr (Or.inr there))
  · rintro ⟨other, member, place⟩
    rcases mem_insert.mp member with rfl | there
    · exact absurd place heeded
    · exact sound.refused ⟨other, split ▸ mem_insert.mpr (Or.inr there), place⟩

theorem enter_sound {limits : Limits} {semaphore : Semaphore} {used : Nat}
    {before after : List Call} {call : Call}
    (permits : semaphore.permits + 1 + (before ++ after).countP Call.isHolding =
      limits.maxConcurrency)
    (fair : semaphore.Fair)
    (queue : (before ++ after).countP Call.isQueued = semaphore.waiters.length)
    (count : (before ++ after).countP Call.admitted = used) (budget : used ≤ limits.budget)
    (calls : ∀ other ∈ before ++ after, other.Sound limits)
    (refused : (∃ other ∈ before ++ after, other.place = .over_ .refused) → used = limits.budget)
    (fresh : call.admitted = false ∧ call.invocations = 0) :
    GatewaySound limits (.enter limits semaphore used before after call) := by
  unfold GatewayRun.enter
  split
  · rename_i spent
    constructor
    · simp only [GatewayRun.holding, countP_insert, Semaphore.release_permits, Call.isHolding]
      simp only [Bool.false_eq_true, if_false]
      omega
    · exact semaphore.release_fair
    · simp only [countP_insert, Semaphore.release_length, Call.isQueued]
      simpa using queue
    · simpa [GatewayRun.admitted, countP_insert, fresh.1] using count
    · exact budget
    · intro other member
      rcases mem_insert.mp member with rfl | there
      · simp [Call.Sound, fresh]
      · exact calls other there
    · intro _
      exact Nat.le_antisymm budget spent
  · rename_i left
    constructor
    · simp only [GatewayRun.holding, countP_insert, Call.isHolding, if_true]
      omega
    · exact fair
    · simpa [countP_insert, Call.isQueued] using queue
    · simp only [GatewayRun.admitted, countP_insert, if_true]
      rw [count]
    · simp only
      omega
    · intro other member
      rcases mem_insert.mp member with rfl | there
      · simp [Call.Sound]
      · exact calls other there
    · rintro ⟨other, member, place⟩
      rcases mem_insert.mp member with rfl | there
      · cases place
      · have spent := refused ⟨other, there, place⟩
        omega

section
variable {limits : Limits} {c c' : GatewayRun} {before after : List Call} {call : Call}

theorem sound_of_split (sound : GatewaySound limits c) (split : c.calls = before ++ call :: after) :
    call.Sound limits :=
  sound.calls call (split ▸ mem_insert.mpr (Or.inl rfl))

theorem holding_sound (own : call.Sound limits) (holding : call.isHolding = true) :
    call.admitted = true ∧ call.invocations ≤ limits.maxRetries + 1 := by
  unfold Call.isHolding at holding
  unfold Call.Sound at own
  split at holding
  · rename_i attempt place
    rw [place] at own
    exact ⟨own.1, by omega⟩
  · rename_i attempt place
    rw [place] at own
    exact ⟨own.1, by omega⟩
  · cases holding

theorem finish_sound (sound : GatewaySound limits c) (split : c.calls = before ++ call :: after)
    (holding : call.isHolding = true) {ending : Ending} (heeded : ending ≠ .refused) :
    GatewaySound limits (c.finish before after call ending) := by
  obtain ⟨admitted, invocations⟩ := holding_sound (sound_of_split sound split) holding
  have unqueued : call.isQueued = false := by
    unfold Call.isHolding at holding
    unfold Call.isQueued
    split at holding
    · rename_i place
      rw [place]
      rfl
    · rename_i place
      rw [place]
      rfl
    · cases holding
  apply replace_sound sound split
  · rw [Semaphore.release_permits, holding]
    rfl
  · exact c.semaphore.release_fair
  · rw [Semaphore.release_length, unqueued]
    rfl
  · rfl
  · simp only [Call.Sound, admitted, if_true]
    exact ⟨invocations, fun never => by cases never⟩
  · intro place
    exact heeded (CallPlace.over_.inj place)

theorem advance_sound (sound : GatewaySound limits c) (step : Advance limits c c') :
    GatewaySound limits c' := by
  cases step with
  | @granted before after call first rest split place queue same =>
    have own := sound_of_split sound split
    unfold Call.Sound at own
    rw [place] at own
    have taken := Semaphore.leave_granted queue
    have held := sound.permits
    have queued := sound.queue
    have used := sound.used
    simp only [GatewayRun.holding, GatewayRun.admitted, split, countP_insert] at held queued used
    simp only [Call.isHolding, Call.isQueued, place, own.1, queue, List.length_append,
      List.length_cons] at held queued used
    apply enter_sound
    · simp only [Bool.false_eq_true, if_false] at held
      omega
    · exact wakeWaiters_fair _ _
    · simp only [Semaphore.leave, wakeWaiters_length, List.length_append]
      simp only [beq_self_eq_true, if_true] at queued
      omega
    · simpa using used
    · exact sound.budget
    · exact fun other there => sound.calls other (split ▸ mem_insert.mpr (Or.inr there))
    · rintro ⟨other, there, refused⟩
      exact sound.refused ⟨other, split ▸ mem_insert.mpr (Or.inr there), refused⟩
    · exact own
  | answers split place => exact finish_sound sound split (by simp [Call.isHolding, place]) (by decide)
  | raises split place => exact finish_sound sound split (by simp [Call.isHolding, place]) (by decide)
  | givesUp split place => exact finish_sound sound split (by simp [Call.isHolding, place]) (by decide)
  | backsOff split place again =>
    have own := sound_of_split sound split
    unfold Call.Sound at own
    rw [place] at own
    obtain ⟨admitted, invocations, within⟩ := own
    apply replace_sound sound split
    · simp [Call.isHolding, place]
    · exact sound.fair
    · simp [Call.isQueued, place]
    · rfl
    · exact ⟨admitted, invocations, Nat.lt_of_le_of_ne within again⟩
    · simp
  | retries split place =>
    have own := sound_of_split sound split
    unfold Call.Sound at own
    rw [place] at own
    obtain ⟨admitted, invocations, within⟩ := own
    apply replace_sound sound split
    · simp [Call.isHolding, place]
    · exact sound.fair
    · simp [Call.isQueued, place]
    · rfl
    · exact ⟨admitted, by simp [invocations], within⟩
    · simp

theorem leave_sound (sound : GatewaySound limits c) (split : c.calls = before ++ call :: after)
    (place : call.place = .queued) {first rest : List Future} {future : Future} {refund : Nat}
    (queue : c.semaphore.waiters = first ++ future :: rest)
    (kept : (c.semaphore.leave first rest refund).permits = c.semaphore.permits) :
    GatewaySound limits { c with
      semaphore := c.semaphore.leave first rest refund
      calls := before ++ { call with place := .over_ .cancelled } :: after } := by
  have own := sound_of_split sound split
  unfold Call.Sound at own
  rw [place] at own
  apply replace_sound sound split
  · rw [kept]
    simp [Call.isHolding, place]
  · exact wakeWaiters_fair _ _
  · simp only [Semaphore.leave, wakeWaiters_length, queue, List.length_append, List.length_cons,
      Call.isQueued, place]
    simp only [beq_self_eq_true, if_true]
    simp only [beq_eq_false_iff_ne.mpr (by simp : CallPlace.over_ Ending.cancelled ≠ .queued)]
    simp only [Bool.false_eq_true, if_false]
    omega
  · rfl
  · simp [Call.Sound, own]
  · simp

theorem gatewayStep_sound (sound : GatewaySound limits c) (step : GatewayStep limits c c') :
    GatewaySound limits c' := by
  cases step with
  | advances step => exact advance_sound sound step
  | arrives free =>
    have taken := Semaphore.acquire_permits free
    have held := sound.permits
    simp only [GatewayRun.holding] at held
    apply enter_sound
    · rw [List.append_nil]
      omega
    · exact Semaphore.acquire_fair free
    · rw [List.append_nil]
      exact sound.queue
    · rw [List.append_nil]
      exact sound.used
    · exact sound.budget
    · rw [List.append_nil]
      exact sound.calls
    · rw [List.append_nil]
      exact sound.refused
    · exact ⟨rfl, rfl⟩
  | queues busy =>
    constructor
    · have held := sound.permits
      simpa [GatewayRun.holding, Semaphore.enqueue_permits, Call.isHolding, Call.new] using held
    · exact Semaphore.enqueue_fair sound.fair busy
    · have queued := sound.queue
      simp [Semaphore.enqueue, Call.isQueued, Call.new, queued]
    · have used := sound.used
      simpa [GatewayRun.admitted, Call.new] using used
    · exact sound.budget
    · intro call member
      rcases List.mem_append.mp member with old | new
      · exact sound.calls call old
      · rw [List.mem_singleton.mp new]
        exact ⟨rfl, rfl⟩
    · rintro ⟨call, member, place⟩
      rcases List.mem_append.mp member with old | new
      · exact sound.refused ⟨call, old, place⟩
      · rw [List.mem_singleton.mp new] at place
        cases place
  | cancelsWaiter queue =>
    constructor
    · have held := sound.permits
      rw [← Semaphore.cancel_permits queue] at held
      exact held
    · exact Semaphore.cancel_fair sound.fair queue
    · have queued := sound.queue
      simpa [queue] using queued
    · exact sound.used
    · exact sound.budget
    · exact sound.calls
    · exact sound.refused
  | leaves split place queue same =>
    exact leave_sound sound split place queue (Semaphore.leave_cancelled queue)
  | refunds split place queue same =>
    exact leave_sound sound split place queue (Semaphore.leave_refunded queue)
  | cancels split holding => exact finish_sound sound split holding (by decide)

end

end AgentShield.Gateway
