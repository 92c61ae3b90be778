import AgentShield.Lib.Table
import AgentShield.Schema.Events

/-!
Numbering and fan-out of events (`events/emitter.py`, `events/bus.py`).
-/
namespace AgentShield.Events
open Schema Keyed

structure EventEmitter where
  experimentId : Uuid
  nextSeq : Nat
  deriving DecidableEq

def EventEmitter.lastSeq (e : EventEmitter) : Int := e.nextSeq - 1

def number (experimentId : Uuid) (seq : Nat) : List EventDraft → List Event
  | [] => []
  | draft :: rest => { draft with seq, experimentId } :: number experimentId (seq + 1) rest

def EventEmitter.emit (e : EventEmitter) (drafts : List EventDraft) : EventEmitter × List Event :=
  ({ e with nextSeq := e.nextSeq + drafts.length }, number e.experimentId e.nextSeq drafts)

/- An unbounded `asyncio.Queue`, oldest event first; `id` is the object's identity. -/
structure Queue where
  id : Nat
  events : List Event
  deriving DecidableEq

def ringSize : Nat := 2000

/- `published` is history, not a field of the source: everything ever published. -/
structure EventBus where
  buffer : List Event
  subscribers : Table Queue.id
  nextQueue : Nat
  published : List Event

def EventBus.new : EventBus := ⟨[], Table.empty, 0, []⟩

def ringAppend (buffer : List Event) (event : Event) : List Event :=
  if buffer.length < ringSize then buffer ++ [event] else buffer.tail ++ [event]

def Queue.putNowait (event : Event) (q : Queue) : Queue :=
  { q with events := q.events ++ [event] }

namespace EventBus

def publishOne (bus : EventBus) (event : Event) : EventBus :=
  { bus with
    buffer := ringAppend bus.buffer event
    subscribers := bus.subscribers.update (Queue.putNowait event) fun _ => rfl
    published := bus.published ++ [event] }

def publish (bus : EventBus) (events : List Event) : EventBus := events.foldl publishOne bus

def subscribe (bus : EventBus) : EventBus × Nat :=
  ({ bus with
      subscribers := bus.subscribers.put ⟨bus.nextQueue, []⟩
      nextQueue := bus.nextQueue + 1 },
    bus.nextQueue)

def unsubscribe (bus : EventBus) (queue : Nat) : EventBus :=
  { bus with subscribers := bus.subscribers.erase queue }

/- `queue.get()` when it does not have to wait. -/
def getNowait (bus : EventBus) (queue : Nat) : Option (EventBus × Event) :=
  match bus.subscribers.get? queue with
  | none => none
  | some q => match q.events with
    | [] => none
    | event :: rest =>
      some ({ bus with subscribers := bus.subscribers.put { q with events := rest } }, event)

/-- Events with a larger number, or `none` if `seq` is outside the buffer. -/
def since (bus : EventBus) (seq : Int) : Option (List Event) :=
  match bus.buffer with
  | [] => some []
  | oldest :: _ =>
    if seq < (oldest.seq : Int) - 1 then none
    else some (bus.buffer.filter fun event => (event.seq : Int) > seq)

end EventBus

theorem number_append (experimentId : Uuid) (seq : Nat) (first later : List EventDraft) :
    number experimentId seq (first ++ later) =
      number experimentId seq first ++ number experimentId (seq + first.length) later := by
  induction first generalizing seq with
  | nil => rfl
  | cons draft rest ih =>
    simp only [List.cons_append, number, ih, List.length_cons]
    rw [Nat.add_assoc, Nat.add_comm 1]

@[simp] theorem number_length (experimentId : Uuid) (seq : Nat) (drafts : List EventDraft) :
    (number experimentId seq drafts).length = drafts.length := by
  induction drafts generalizing seq with
  | nil => rfl
  | cons draft rest ih => simp only [number, List.length_cons, ih]

theorem number_drafts (experimentId : Uuid) (seq : Nat) (drafts : List EventDraft) :
    (number experimentId seq drafts).map Event.toEventDraft = drafts := by
  induction drafts generalizing seq with
  | nil => rfl
  | cons draft rest ih => simp only [number, List.map_cons, ih]

theorem number_member {experimentId : Uuid} {seq : Nat} {drafts : List EventDraft} {event : Event}
    (member : event ∈ number experimentId seq drafts) : event.toEventDraft ∈ drafts := by
  rw [← number_drafts experimentId seq drafts]
  exact List.mem_map_of_mem member

theorem number_signed {experimentId : Uuid} {seq : Nat} {drafts : List EventDraft} {event : Event}
    (member : event ∈ number experimentId seq drafts) : event.experimentId = experimentId := by
  induction drafts generalizing seq with
  | nil => cases member
  | cons draft rest ih =>
    rcases List.mem_cons.mp member with rfl | later
    · rfl
    · exact ih later

theorem number_seqs (experimentId : Uuid) (seq : Nat) (drafts : List EventDraft) :
    (number experimentId seq drafts).map Event.seq = List.range' seq drafts.length := by
  induction drafts generalizing seq with
  | nil => rfl
  | cons draft rest ih => simp only [number, List.map_cons, ih, List.length_cons, List.range'_succ]

@[simp] theorem publish_published (bus : EventBus) (events : List Event) :
    (bus.publish events).published = bus.published ++ events := by
  induction events generalizing bus with
  | nil => simp [EventBus.publish]
  | cons event rest ih =>
    have step : bus.publish (event :: rest) = (bus.publishOne event).publish rest := rfl
    rw [step, ih]
    simp [EventBus.publishOne]

theorem emit_next {emitter : EventEmitter} {bus : EventBus}
    (next : emitter.nextSeq = bus.published.length) (drafts : List EventDraft) :
    (emitter.emit drafts).1.nextSeq =
      (bus.publish (emitter.emit drafts).2).published.length := by
  rw [publish_published, List.length_append]
  simp [EventEmitter.emit, next]

theorem emit_seqs {emitter : EventEmitter} {bus : EventBus}
    (next : emitter.nextSeq = bus.published.length) (drafts : List EventDraft) :
    (emitter.emit drafts).2.map Event.seq =
      List.range' bus.published.length (emitter.emit drafts).2.length := by
  simp only [EventEmitter.emit, number_seqs, number_length, next]

end AgentShield.Events
