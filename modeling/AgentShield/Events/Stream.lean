import Mathlib.Logic.Relation
import AgentShield.Events.BusLaws

/-!
The stream handler (`api/ws.py`, and its copy in `api/routes_runtime.py`): one
loop, run against any publisher. Every statement that another task can separate
from the next one is a step of its own; the source suspends at fewer of them.
-/
namespace AgentShield.StreamHandler
open Schema Events Keyed

inductive Frame where
  | snapshot (frame : SnapshotFrame)
  | event (event : Event)
  deriving DecidableEq

/-- What a handler needs of its publisher: `act` is any of the publisher's own steps. -/
structure Publisher (σ : Type) where
  bus : σ → EventBus
  setBus : σ → EventBus → σ
  snapshot : σ → SnapshotFrame
  act : σ → σ → Prop

/- Where the handler is; `queue` is the queue it subscribed. -/
inductive Place where
  | accepting
  | subscribed (queue : Nat)
  | snapshotting (queue : Nat)
  | sendingSnapshot (queue : Nat) (frame : SnapshotFrame)
  | sendingBacklog (queue : Nat) (rest : List Event) (lastSentSeq : Int)
  | waiting (queue : Nat) (lastSentSeq : Int)
  | sending (queue : Nat) (event : Event) (lastSentSeq : Int)
  | closed

def Place.queue : Place → Option Nat
  | .accepting => none
  | .subscribed queue => some queue
  | .snapshotting queue => some queue
  | .sendingSnapshot queue _ => some queue
  | .sendingBacklog queue _ _ => some queue
  | .waiting queue _ => some queue
  | .sending queue _ _ => some queue
  | .closed => none

section
variable {σ : Type}

/-- The handler's next step, and the frames it hands to the client in it. -/
def advance (p : Publisher σ) (sinceSeq : Option Int) (s : σ) :
    Place → Option (σ × Place × List Frame)
  | .accepting =>
    let (bus, queue) := (p.bus s).subscribe
    some (p.setBus s bus, .subscribed queue, [])
  | .subscribed queue =>
    match sinceSeq with
    | none => some (s, .snapshotting queue, [])
    | some seq => match (p.bus s).since seq with
      | none => some (s, .snapshotting queue, [])
      | some backlog => some (s, .sendingBacklog queue backlog seq, [])
  | .snapshotting queue => some (s, .sendingSnapshot queue (p.snapshot s), [])
  | .sendingSnapshot queue frame => some (s, .waiting queue frame.lastSeq, [.snapshot frame])
  | .sendingBacklog queue [] lastSentSeq => some (s, .waiting queue lastSentSeq, [])
  | .sendingBacklog queue (event :: rest) _ =>
    some (s, .sendingBacklog queue rest event.seq, [.event event])
  | .waiting queue lastSentSeq =>
    match (p.bus s).getNowait queue with
    | none => none
    | some (bus, event) =>
      if (event.seq : Int) ≤ lastSentSeq then
        some (p.setBus s bus, .waiting queue lastSentSeq, [])
      else some (p.setBus s bus, .sending queue event lastSentSeq, [])
  | .sending queue event _ => some (s, .waiting queue event.seq, [.event event])
  | .closed => none

def leave (bus : EventBus) (place : Place) : EventBus :=
  match place.queue with
  | none => bus
  | some queue => bus.unsubscribe queue

structure Config (σ : Type) where
  state : σ
  place : Place
  received : List Frame

/- The publisher, this handler, and other handlers at their own queues. -/
inductive Step (p : Publisher σ) (sinceSeq : Option Int) : Config σ → Config σ → Prop where
  | publish {s s' : σ} (place : Place) (received : List Frame) (acts : p.act s s') :
      Step p sinceSeq ⟨s, place, received⟩ ⟨s', place, received⟩
  | advance {s s' : σ} {place place' : Place} {frames : List Frame} (received : List Frame)
      (next : advance p sinceSeq s place = some (s', place', frames)) :
      Step p sinceSeq ⟨s, place, received⟩ ⟨s', place', received ++ frames⟩
  | disconnect (s : σ) (place : Place) (received : List Frame) :
      Step p sinceSeq ⟨s, place, received⟩
        ⟨p.setBus s (leave (p.bus s) place), .closed, received⟩
  | otherSubscribes (s : σ) (place : Place) (received : List Frame) :
      Step p sinceSeq ⟨s, place, received⟩
        ⟨p.setBus s (p.bus s).subscribe.1, place, received⟩
  | otherLeaves (s : σ) (place : Place) (received : List Frame) (queue : Nat)
      (other : place.queue ≠ some queue) :
      Step p sinceSeq ⟨s, place, received⟩
        ⟨p.setBus s ((p.bus s).unsubscribe queue), place, received⟩
  | otherGets {s : σ} (place : Place) (received : List Frame) {queue : Nat} {bus : EventBus}
      {event : Event} (other : place.queue ≠ some queue)
      (got : (p.bus s).getNowait queue = some (bus, event)) :
      Step p sinceSeq ⟨s, place, received⟩ ⟨p.setBus s bus, place, received⟩

def Reaches (p : Publisher σ) (sinceSeq : Option Int) : Config σ → Config σ → Prop :=
  Relation.ReflTransGen (Step p sinceSeq)

inductive Own (p : Publisher σ) (sinceSeq : Option Int) : Config σ → Config σ → Prop where
  | advance {s s' : σ} {place place' : Place} {frames : List Frame} (received : List Frame)
      (next : advance p sinceSeq s place = some (s', place', frames)) :
      Own p sinceSeq ⟨s, place, received⟩ ⟨s', place', received ++ frames⟩

/-- The publisher keeps to the bus: it publishes numbered batches and nothing else, its
    snapshots name the last event published, and storing the bus changes only the bus. -/
structure Publisher.Lawful (p : Publisher σ) (good : σ → Prop) : Prop where
  bus_setBus : ∀ s bus, p.bus (p.setBus s bus) = bus
  good_setBus : ∀ s bus, good s → bus.published = (p.bus s).published → good (p.setBus s bus)
  good_act : ∀ s s', good s → p.act s s' → good s'
  publishes : ∀ s s', good s → p.act s s' → ∃ events, p.bus s' = (p.bus s).publish events ∧
    events.map Event.seq = List.range' (p.bus s).published.length events.length
  last : ∀ s, good s → (p.snapshot s).lastSeq = ((p.bus s).published.length : Int) - 1

def Taken (p : Publisher σ) (sinceSeq : Option Int) (start c : Config σ)
    (frame : SnapshotFrame) : Prop :=
  ∃ c₁, Reaches p sinceSeq start c₁ ∧ Reaches p sinceSeq c₁ c ∧ frame = p.snapshot c₁.state

end

/-- The events with a larger number. -/
def after (published : List Event) (seq : Int) : List Event :=
  published.filter fun event => (event.seq : Int) > seq

def eventFrames (events : List Event) : List Frame := events.map Frame.event

/-- The whole stream: the events after the number the client passed, or one snapshot and
    the events after that. -/
def Whole (taken : SnapshotFrame → Prop) (sinceSeq : Option Int) (published : List Event)
    (frames : List Frame) : Prop :=
  (∃ seq, sinceSeq = some seq ∧ frames = eventFrames (after published seq)) ∨
    ∃ frame, taken frame ∧
      frames = .snapshot frame :: eventFrames (after published frame.lastSeq)

def CaughtUp (bus : EventBus) : Place → Prop
  | .waiting queue _ => bus.getNowait queue = none
  | _ => False

/-- A handler never closes by a step of its own, and while it is open its own steps bring it to
    the end of what is published. -/
structure Progresses {σ : Type} (p : Publisher σ) (sinceSeq : Option Int) (c : Config σ) :
    Prop where
  stays : ∀ c', Own p sinceSeq c c' → c'.place ≠ .closed
  catches_up : c.place ≠ .closed → ∃ c', Relation.ReflTransGen (Own p sinceSeq) c c' ∧
    CaughtUp (p.bus c'.state) c'.place ∧ (p.bus c'.state).published = (p.bus c.state).published

/-- The frames received so far are the whole stream up to a point, and all of it when the
    handler has caught up; the events in it are numbered without a gap. -/
structure Delivered (taken : SnapshotFrame → Prop) (sinceSeq : Option Int) (bus : EventBus)
    (place : Place) (received : List Frame) : Prop where
  seqs : bus.published.map Event.seq = List.range bus.published.length
  frames : ∃ frames, Whole taken sinceSeq bus.published frames ∧ received <+: frames ∧
    (CaughtUp bus place → received = frames)

end AgentShield.StreamHandler
