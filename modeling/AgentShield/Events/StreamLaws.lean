import Mathlib.Data.List.Infix
import AgentShield.Events.Stream

/-!
The laws of the stream handler: what holds at each place of it, what one step
keeps, and from that what a client has received after any interleaving.
-/
namespace AgentShield.StreamHandler
open Schema Events Keyed

/- The client was sent `header`, then the events numbered from `low` up to `high`. -/
structure Sent (published : List Event) (header : List Frame) (low high : Nat)
    (received : List Frame) : Prop where
  frames : received = header ++ eventFrames ((published.take high).drop low)
  ordered : low ≤ high
  present : high ≤ published.length ∨ low = high

structure Holds (bus : EventBus) (queue next : Nat) : Prop where
  events : (bus.subscribers.get? queue).map Queue.events = some (bus.published.drop next)
  bound : next ≤ bus.published.length
  own : queue < bus.nextQueue

def Began (taken : SnapshotFrame → Prop) (sinceSeq : Option Int) (header : List Frame)
    (low : Nat) : Prop :=
  (∃ seq, sinceSeq = some seq ∧ header = [] ∧ low = (seq + 1).toNat) ∨
    ∃ frame, taken frame ∧ header = [.snapshot frame] ∧ low = (frame.lastSeq + 1).toNat

theorem sent_publish {published : List Event} {header : List Frame} {low high : Nat}
    {received : List Frame} (sent : Sent published header low high received)
    (events : List Event) : Sent (published ++ events) header low high received := by
  refine ⟨?_, sent.ordered, ?_⟩
  · rw [sent.frames]
    congr 2
    rcases sent.present with within | same
    · rw [List.take_append_of_le_length within]
    · rw [same, List.drop_eq_nil_iff.mpr, List.drop_eq_nil_iff.mpr]
      · exact List.length_take_le _ _
      · exact List.length_take_le _ _
  · rcases sent.present with within | same
    · left
      rw [List.length_append]
      omega
    · exact Or.inr same

theorem sent_next {published : List Event} {header : List Frame} {low high : Nat}
    {received : List Frame} (sent : Sent published header low high received) {event : Event}
    (next : published[high]? = some event) :
    Sent published header low (high + 1) (received ++ [.event event]) := by
  have within : high < published.length := (List.getElem?_eq_some_iff.mp next).1
  refine ⟨?_, ?_, ?_⟩
  · have shorter : low ≤ (published.take high).length := by
      have ordered := sent.ordered
      rw [List.length_take]
      omega
    rw [sent.frames, List.take_add_one, next, Option.toList_some,
      List.drop_append_of_le_length shorter]
    simp [eventFrames]
  · have ordered := sent.ordered
    omega
  · left
    omega

theorem holds_publishOne {bus : EventBus} {queue next : Nat} (holds : Holds bus queue next)
    (event : Event) : Holds (bus.publishOne event) queue next := by
  obtain ⟨events, bound, own⟩ := holds
  refine ⟨?_, ?_, own⟩
  · have stored : (bus.publishOne event).subscribers.get? queue =
        (bus.subscribers.get? queue).map (Queue.putNowait event) :=
      Table.get?_update bus.subscribers (Queue.putNowait event) (fun _ => rfl) queue
    have published : (bus.publishOne event).published = bus.published ++ [event] := rfl
    obtain ⟨q, found, same⟩ := Option.map_eq_some_iff.mp events
    rw [stored, published, found, List.drop_append_of_le_length bound, ← same]
    rfl
  · simp only [EventBus.publishOne, List.length_append]
    omega

theorem holds_publish {bus : EventBus} {queue next : Nat} (holds : Holds bus queue next)
    (events : List Event) : Holds (bus.publish events) queue next := by
  induction events generalizing bus with
  | nil => exact holds
  | cons event rest ih => exact ih (holds_publishOne holds event)

/- What other handlers do to the bus leaves this queue alone. -/
structure Elsewhere (bus bus' : EventBus) (own : Option Nat) : Prop where
  published : bus'.published = bus.published
  buffer : bus'.buffer = bus.buffer
  next : bus.nextQueue ≤ bus'.nextQueue
  kept : ∀ queue, own = some queue → queue < bus.nextQueue →
    bus'.subscribers.get? queue = bus.subscribers.get? queue

theorem holds_elsewhere {bus bus' : EventBus} {own : Option Nat} {queue next : Nat}
    (elsewhere : Elsewhere bus bus' own) (mine : own = some queue)
    (holds : Holds bus queue next) : Holds bus' queue next := by
  obtain ⟨events, bound, below⟩ := holds
  refine ⟨?_, ?_, Nat.lt_of_lt_of_le below elsewhere.next⟩
  · rw [elsewhere.kept queue mine below, elsewhere.published, events]
  · rw [elsewhere.published]
    exact bound

theorem subscribe_elsewhere (bus : EventBus) (own : Option Nat) :
    Elsewhere bus bus.subscribe.1 own := by
  refine ⟨rfl, rfl, Nat.le_succ _, ?_⟩
  intro queue _ below
  have stored : bus.subscribe.1.subscribers.get? queue =
      if queue = bus.nextQueue then some ⟨bus.nextQueue, []⟩ else bus.subscribers.get? queue :=
    Table.get?_put _ _ _
  rw [stored, if_neg (Nat.ne_of_lt below)]

theorem unsubscribe_elsewhere (bus : EventBus) {own : Option Nat} {queue : Nat}
    (other : own ≠ some queue) : Elsewhere bus (bus.unsubscribe queue) own := by
  refine ⟨rfl, rfl, Nat.le_refl _, ?_⟩
  intro mine same _
  have erased : (bus.unsubscribe queue).subscribers.get? mine =
      if mine = queue then none else bus.subscribers.get? mine := Table.get?_erase _ _ _
  rw [erased, if_neg]
  intro clash
  exact other (clash ▸ same)

theorem getNowait_some {bus bus' : EventBus} {queue : Nat} {event : Event}
    (got : bus.getNowait queue = some (bus', event)) :
    ∃ q rest, bus.subscribers.get? queue = some q ∧ q.events = event :: rest ∧
      bus' = { bus with subscribers := bus.subscribers.put { q with events := rest } } := by
  unfold EventBus.getNowait at got
  cases found : bus.subscribers.get? queue with
  | none =>
    rw [found] at got
    cases got
  | some q =>
    rw [found] at got
    cases held : q.events with
    | nil =>
      simp only [held] at got
      cases got
    | cons first rest =>
      simp only [held] at got
      obtain ⟨rfl, rfl⟩ := Prod.mk.inj (Option.some.inj got)
      exact ⟨q, rest, rfl, held, rfl⟩

theorem get_elsewhere {bus bus' : EventBus} {own : Option Nat} {queue : Nat} {event : Event}
    (other : own ≠ some queue) (got : bus.getNowait queue = some (bus', event)) :
    Elsewhere bus bus' own := by
  obtain ⟨q, rest, found, _, rfl⟩ := getNowait_some got
  refine ⟨rfl, rfl, Nat.le_refl _, ?_⟩
  intro mine same _
  have id : q.id = queue := Table.get?_key found
  have stored : (bus.subscribers.put { q with events := rest }).get? mine =
      if mine = q.id then some { q with events := rest } else bus.subscribers.get? mine :=
    Table.get?_put _ _ _
  simp only
  rw [stored, if_neg]
  intro clash
  exact other (id ▸ clash ▸ same)

theorem holds_get {bus bus' : EventBus} {queue next : Nat} {event : Event}
    (holds : Holds bus queue next) (got : bus.getNowait queue = some (bus', event)) :
    bus.published[next]? = some event ∧ bus'.published = bus.published ∧
      bus'.buffer = bus.buffer ∧ Holds bus' queue (next + 1) := by
  obtain ⟨events, bound, own⟩ := holds
  obtain ⟨q, rest, found, held, rfl⟩ := getNowait_some got
  have id : q.id = queue := Table.get?_key found
  rw [found, Option.map_some, Option.some.injEq, held] at events
  have here : bus.published[next]? = some event := by
    have head := congrArg List.head? events
    rw [List.head?_cons, List.head?_drop] at head
    exact head.symm
  have later : rest = bus.published.drop (next + 1) := by
    have tail := congrArg List.tail events
    rw [List.tail_cons, List.tail_drop] at tail
    exact tail
  have within := (List.getElem?_eq_some_iff.mp here).1
  refine ⟨here, rfl, rfl, ?_, within, own⟩
  have stored : (bus.subscribers.put { q with events := rest }).get? queue =
      if queue = q.id then some { q with events := rest } else bus.subscribers.get? queue :=
    Table.get?_put _ _ _
  rw [stored, if_pos id.symm, later]
  rfl

def Inv (taken : SnapshotFrame → Prop) (sinceSeq : Option Int) (bus : EventBus)
    (received : List Frame) : Place → Prop
  | .accepting => received = []
  | .subscribed queue => received = [] ∧ ∃ next, Holds bus queue next
  | .snapshotting queue => received = [] ∧ ∃ next, Holds bus queue next
  | .sendingSnapshot queue frame =>
    received = [] ∧ taken frame ∧ (frame.lastSeq + 1).toNat ≤ bus.published.length ∧
      ∃ next, Holds bus queue next ∧ next ≤ (frame.lastSeq + 1).toNat
  | .sendingBacklog queue rest last =>
    ∃ seq next total, sinceSeq = some seq ∧
      Sent bus.published [] (seq + 1).toNat (last + 1).toNat received ∧
      rest = (bus.published.take total).drop (last + 1).toNat ∧
      total ≤ bus.published.length ∧ Holds bus queue next ∧ next ≤ total
  | .waiting queue last =>
    ∃ header low next, Began taken sinceSeq header low ∧
      Sent bus.published header low (last + 1).toNat received ∧ Holds bus queue next ∧
      next ≤ (last + 1).toNat
  | .sending queue event _ =>
    ∃ header low, Began taken sinceSeq header low ∧
      Sent bus.published header low event.seq received ∧
      bus.published[event.seq]? = some event ∧ Holds bus queue (event.seq + 1)
  | .closed =>
    received = [] ∨ ∃ header low high, Began taken sinceSeq header low ∧
      Sent bus.published header low high received

theorem began_mono {taken taken' : SnapshotFrame → Prop} (wider : ∀ f, taken f → taken' f)
    {sinceSeq : Option Int} {header : List Frame} {low : Nat}
    (began : Began taken sinceSeq header low) : Began taken' sinceSeq header low := by
  rcases began with resumed | ⟨frame, member, same⟩
  · exact Or.inl resumed
  · exact Or.inr ⟨frame, wider frame member, same⟩

theorem inv_mono {taken taken' : SnapshotFrame → Prop} (wider : ∀ f, taken f → taken' f)
    {sinceSeq : Option Int} {bus : EventBus} {received : List Frame} {place : Place}
    (inv : Inv taken sinceSeq bus received place) :
    Inv taken' sinceSeq bus received place := by
  cases place with
  | accepting => exact inv
  | subscribed queue => exact inv
  | snapshotting queue => exact inv
  | sendingSnapshot queue frame =>
    obtain ⟨empty, member, rest⟩ := inv
    exact ⟨empty, wider frame member, rest⟩
  | sendingBacklog queue rest last => exact inv
  | waiting queue last =>
    obtain ⟨header, low, next, began, rest⟩ := inv
    exact ⟨header, low, next, began_mono wider began, rest⟩
  | sending queue event last =>
    obtain ⟨header, low, began, rest⟩ := inv
    exact ⟨header, low, began_mono wider began, rest⟩
  | closed =>
    rcases inv with empty | ⟨header, low, high, began, sent⟩
    · exact Or.inl empty
    · exact Or.inr ⟨header, low, high, began_mono wider began, sent⟩

theorem inv_publish {taken : SnapshotFrame → Prop} {sinceSeq : Option Int} {bus : EventBus}
    {received : List Frame} {place : Place} (inv : Inv taken sinceSeq bus received place)
    (events : List Event) : Inv taken sinceSeq (bus.publish events) received place := by
  have published := publish_published bus events
  cases place with
  | accepting => exact inv
  | subscribed queue =>
    obtain ⟨empty, next, holds⟩ := inv
    exact ⟨empty, next, holds_publish holds events⟩
  | snapshotting queue =>
    obtain ⟨empty, next, holds⟩ := inv
    exact ⟨empty, next, holds_publish holds events⟩
  | sendingSnapshot queue frame =>
    obtain ⟨empty, member, within, next, holds, order⟩ := inv
    refine ⟨empty, member, ?_, next, holds_publish holds events, order⟩
    rw [published, List.length_append]
    omega
  | sendingBacklog queue rest last =>
    obtain ⟨seq, next, total, same, sent, left, within, holds, order⟩ := inv
    refine ⟨seq, next, total, same, ?_, ?_, ?_, holds_publish holds events, order⟩
    · rw [published]
      exact sent_publish sent events
    · rw [published, List.take_append_of_le_length within]
      exact left
    · rw [published, List.length_append]
      omega
  | waiting queue last =>
    obtain ⟨header, low, next, began, sent, holds, order⟩ := inv
    refine ⟨header, low, next, began, ?_, holds_publish holds events, order⟩
    rw [published]
    exact sent_publish sent events
  | sending queue event last =>
    obtain ⟨header, low, began, sent, here, holds⟩ := inv
    refine ⟨header, low, began, ?_, ?_, holds_publish holds events⟩
    · rw [published]
      exact sent_publish sent events
    · rw [published, List.getElem?_append_left (List.getElem?_eq_some_iff.mp here).1]
      exact here
  | closed =>
    rcases inv with empty | ⟨header, low, high, began, sent⟩
    · exact Or.inl empty
    · refine Or.inr ⟨header, low, high, began, ?_⟩
      rw [published]
      exact sent_publish sent events

theorem inv_elsewhere {taken : SnapshotFrame → Prop} {sinceSeq : Option Int}
    {bus bus' : EventBus} {received : List Frame} {place : Place}
    (inv : Inv taken sinceSeq bus received place) (elsewhere : Elsewhere bus bus' place.queue) :
    Inv taken sinceSeq bus' received place := by
  have published := elsewhere.published
  cases place with
  | accepting => exact inv
  | subscribed queue =>
    obtain ⟨empty, next, holds⟩ := inv
    exact ⟨empty, next, holds_elsewhere elsewhere rfl holds⟩
  | snapshotting queue =>
    obtain ⟨empty, next, holds⟩ := inv
    exact ⟨empty, next, holds_elsewhere elsewhere rfl holds⟩
  | sendingSnapshot queue frame =>
    obtain ⟨empty, member, within, next, holds, order⟩ := inv
    exact ⟨empty, member, published ▸ within, next, holds_elsewhere elsewhere rfl holds, order⟩
  | sendingBacklog queue rest last =>
    obtain ⟨seq, next, total, same, sent, left, within, holds, order⟩ := inv
    exact ⟨seq, next, total, same, published ▸ sent, published ▸ left, published ▸ within,
      holds_elsewhere elsewhere rfl holds, order⟩
  | waiting queue last =>
    obtain ⟨header, low, next, began, sent, holds, order⟩ := inv
    exact ⟨header, low, next, began, published ▸ sent, holds_elsewhere elsewhere rfl holds, order⟩
  | sending queue event last =>
    obtain ⟨header, low, began, sent, here, holds⟩ := inv
    exact ⟨header, low, began, published ▸ sent, published ▸ here,
      holds_elsewhere elsewhere rfl holds⟩
  | closed =>
    rcases inv with empty | ⟨header, low, high, began, sent⟩
    · exact Or.inl empty
    · exact Or.inr ⟨header, low, high, began, published ▸ sent⟩

theorem inv_closed {taken : SnapshotFrame → Prop} {sinceSeq : Option Int} {bus bus' : EventBus}
    {received : List Frame} {place : Place} (inv : Inv taken sinceSeq bus received place)
    (published : bus'.published = bus.published) :
    Inv taken sinceSeq bus' received .closed := by
  cases place with
  | accepting => exact Or.inl inv
  | subscribed queue => exact Or.inl inv.1
  | snapshotting queue => exact Or.inl inv.1
  | sendingSnapshot queue frame => exact Or.inl inv.1
  | sendingBacklog queue rest last =>
    obtain ⟨seq, next, total, same, sent, _⟩ := inv
    exact Or.inr ⟨[], _, _, Or.inl ⟨seq, same, rfl, rfl⟩, published ▸ sent⟩
  | waiting queue last =>
    obtain ⟨header, low, next, began, sent, _⟩ := inv
    exact Or.inr ⟨header, low, _, began, published ▸ sent⟩
  | sending queue event last =>
    obtain ⟨header, low, began, sent, _⟩ := inv
    exact Or.inr ⟨header, low, _, began, published ▸ sent⟩
  | closed =>
    rcases inv with empty | ⟨header, low, high, began, sent⟩
    · exact Or.inl empty
    · exact Or.inr ⟨header, low, high, began, published ▸ sent⟩

theorem seq_at {bus : EventBus} (sound : bus.Sound) {n : Nat} {event : Event}
    (here : bus.published[n]? = some event) : event.seq = n := by
  have within := (List.getElem?_eq_some_iff.mp here).1
  have mapped : (bus.published.map Event.seq)[n]? = some event.seq := by
    rw [List.getElem?_map, here, Option.map_some]
  rw [sound.seqs, List.getElem?_range within] at mapped
  exact (Option.some.inj mapped).symm

theorem subscribe_holds (bus : EventBus) :
    Holds bus.subscribe.1 bus.subscribe.2 bus.published.length := by
  constructor
  · have stored : bus.subscribe.1.subscribers.get? bus.subscribe.2 =
        some ⟨bus.nextQueue, []⟩ := by
      have put : bus.subscribe.1.subscribers.get? bus.subscribe.2 =
          if bus.subscribe.2 = bus.nextQueue then some ⟨bus.nextQueue, []⟩
          else bus.subscribers.get? bus.subscribe.2 := Table.get?_put _ _ _
      have same : bus.subscribe.2 = bus.nextQueue := rfl
      rw [put, if_pos same]
    have published : bus.subscribe.1.published = bus.published := rfl
    rw [stored, published, List.drop_length, Option.map_some]
  · exact Nat.le_refl _
  · exact Nat.lt_succ_self _

section
variable {σ : Type}

theorem inv_advance {p : Publisher σ} {good : σ → Prop} (lawful : p.Lawful good)
    {taken : SnapshotFrame → Prop} {sinceSeq : Option Int} {s s' : σ} {place place' : Place}
    {received frames : List Frame} (healthy : good s) (sound : (p.bus s).Sound)
    (inv : Inv taken sinceSeq (p.bus s) received place) (now : taken (p.snapshot s))
    (next : advance p sinceSeq s place = some (s', place', frames)) :
    Inv taken sinceSeq (p.bus s') (received ++ frames) place' ∧ good s' ∧
      (p.bus s').published = (p.bus s).published ∧ (p.bus s').buffer = (p.bus s).buffer := by
  cases place with
  | accepting =>
    simp only [advance, Option.some.injEq, Prod.mk.injEq] at next
    obtain ⟨rfl, rfl, rfl⟩ := next
    have empty : received = [] := inv
    rw [lawful.bus_setBus]
    refine ⟨⟨?_, (p.bus s).published.length, subscribe_holds (p.bus s)⟩, ?_, rfl, rfl⟩
    · rw [empty, List.append_nil]
    · exact lawful.good_setBus s _ healthy rfl
  | subscribed queue =>
    obtain ⟨empty, from_, holds⟩ := inv
    cases since : sinceSeq with
    | none =>
      simp only [advance, since, Option.some.injEq, Prod.mk.injEq] at next
      obtain ⟨rfl, rfl, rfl⟩ := next
      rw [List.append_nil]
      exact ⟨⟨empty, from_, holds⟩, healthy, rfl, rfl⟩
    | some seq =>
      cases replay : (p.bus s).since seq with
      | none =>
        simp only [advance, since, replay, Option.some.injEq, Prod.mk.injEq] at next
        obtain ⟨rfl, rfl, rfl⟩ := next
        rw [List.append_nil]
        exact ⟨⟨empty, from_, holds⟩, healthy, rfl, rfl⟩
      | some backlog =>
        simp only [advance, since, replay, Option.some.injEq, Prod.mk.injEq] at next
        obtain ⟨rfl, rfl, rfl⟩ := next
        rw [List.append_nil, empty]
        refine ⟨⟨seq, from_, (p.bus s).published.length, rfl, ?_, ?_, Nat.le_refl _, holds,
          holds.bound⟩, healthy, rfl, rfl⟩
        · constructor
          · have nothing : ((p.bus s).published.take (seq + 1).toNat).drop (seq + 1).toNat = [] :=
              List.drop_eq_nil_iff.mpr (List.length_take_le _ _)
            rw [nothing]
            rfl
          · exact Nat.le_refl _
          · exact Or.inr rfl
        · rw [List.take_length]
          exact since_complete sound replay
  | snapshotting queue =>
    simp only [advance, Option.some.injEq, Prod.mk.injEq] at next
    obtain ⟨rfl, rfl, rfl⟩ := next
    obtain ⟨empty, from_, holds⟩ := inv
    have total : ((p.snapshot s).lastSeq + 1).toNat = (p.bus s).published.length := by
      have last := lawful.last s healthy
      omega
    have bound := holds.bound
    rw [List.append_nil]
    refine ⟨⟨empty, now, ?_, from_, holds, ?_⟩, healthy, rfl, rfl⟩
    · omega
    · omega
  | sendingSnapshot queue frame =>
    simp only [advance, Option.some.injEq, Prod.mk.injEq] at next
    obtain ⟨rfl, rfl, rfl⟩ := next
    obtain ⟨empty, member, within, from_, holds, order⟩ := inv
    rw [empty, List.nil_append]
    refine ⟨⟨[.snapshot frame], (frame.lastSeq + 1).toNat, from_,
      Or.inr ⟨frame, member, rfl, rfl⟩, ?_, holds, order⟩, healthy, rfl, rfl⟩
    constructor
    · have nothing : ((p.bus s).published.take (frame.lastSeq + 1).toNat).drop
          (frame.lastSeq + 1).toNat = [] := List.drop_eq_nil_iff.mpr (List.length_take_le _ _)
      rw [nothing]
      rfl
    · exact Nat.le_refl _
    · exact Or.inr rfl
  | sendingBacklog queue rest last =>
    obtain ⟨seq, from_, total, same, sent, left, within, holds, order⟩ := inv
    cases rest with
    | nil =>
      simp only [advance, Option.some.injEq, Prod.mk.injEq] at next
      obtain ⟨rfl, rfl, rfl⟩ := next
      have done : ((p.bus s).published.take total).length ≤ (last + 1).toNat :=
        List.drop_eq_nil_iff.mp left.symm
      rw [List.length_take, Nat.min_eq_left within] at done
      rw [List.append_nil]
      exact ⟨⟨[], _, from_, Or.inl ⟨seq, same, rfl, rfl⟩, sent, holds, by omega⟩, healthy,
        rfl, rfl⟩
    | cons event later =>
      simp only [advance, Option.some.injEq, Prod.mk.injEq] at next
      obtain ⟨rfl, rfl, rfl⟩ := next
      have head := congrArg List.head? left
      rw [List.head?_cons, List.head?_drop] at head
      have tail := congrArg List.tail left
      rw [List.tail_cons, List.tail_drop] at tail
      have here : (p.bus s).published[(last + 1).toNat]? = some event := by
        have inside := (List.getElem?_eq_some_iff.mp head.symm).1
        rw [List.length_take] at inside
        rw [List.getElem?_take_of_lt (by omega)] at head
        exact head.symm
      have number : event.seq = (last + 1).toNat := seq_at sound here
      have one_more : ((event.seq : Int) + 1).toNat = (last + 1).toNat + 1 := by omega
      refine ⟨⟨seq, from_, total, same, ?_, ?_, within, holds, order⟩, healthy, rfl, rfl⟩
      · rw [one_more]
        exact sent_next sent here
      · rw [one_more]
        exact tail
  | waiting queue last =>
    obtain ⟨header, low, from_, began, sent, holds, order⟩ := inv
    cases got : (p.bus s).getNowait queue with
    | none =>
      simp only [advance, got] at next
      cases next
    | some taken_ =>
      obtain ⟨bus, event⟩ := taken_
      obtain ⟨here, published, buffer, remaining⟩ := holds_get holds got
      have number : event.seq = from_ := seq_at sound here
      have kept := lawful.good_setBus s bus healthy published
      simp only [advance, got] at next
      by_cases seen : (event.seq : Int) ≤ last
      · rw [if_pos seen] at next
        simp only [Option.some.injEq, Prod.mk.injEq] at next
        obtain ⟨rfl, rfl, rfl⟩ := next
        rw [lawful.bus_setBus, List.append_nil]
        refine ⟨⟨header, low, from_ + 1, began, ?_, remaining, ?_⟩, kept, published, buffer⟩
        · rw [published]
          exact sent
        · omega
      · rw [if_neg seen] at next
        simp only [Option.some.injEq, Prod.mk.injEq] at next
        obtain ⟨rfl, rfl, rfl⟩ := next
        have exactly : (last + 1).toNat = event.seq := by omega
        rw [lawful.bus_setBus, List.append_nil]
        refine ⟨⟨header, low, began, ?_, ?_, ?_⟩, kept, published, buffer⟩
        · rw [published, ← exactly]
          exact sent
        · rw [published, number]
          exact here
        · rw [number]
          exact remaining
  | sending queue event last =>
    simp only [advance, Option.some.injEq, Prod.mk.injEq] at next
    obtain ⟨rfl, rfl, rfl⟩ := next
    obtain ⟨header, low, began, sent, here, holds⟩ := inv
    have one_more : ((event.seq : Int) + 1).toNat = event.seq + 1 := by omega
    refine ⟨⟨header, low, event.seq + 1, began, ?_, holds, ?_⟩, healthy, rfl, rfl⟩
    · rw [one_more]
      exact sent_next sent here
    · omega
  | closed =>
    simp only [advance] at next
    cases next

theorem taken_later {p : Publisher σ} {sinceSeq : Option Int} {start c c' : Config σ}
    (step : Step p sinceSeq c c') {frame : SnapshotFrame}
    (taken : Taken p sinceSeq start c frame) : Taken p sinceSeq start c' frame := by
  obtain ⟨c₁, before, after, same⟩ := taken
  exact ⟨c₁, before, after.tail step, same⟩

/-- The handler's invariant, through every interleaving: what one step keeps, every run keeps. -/
theorem reaches_inv {p : Publisher σ} {good : σ → Prop} (lawful : p.Lawful good)
    {sinceSeq : Option Int} {s : σ} (healthy : good s) (sound : (p.bus s).Sound) {c : Config σ}
    (run : Reaches p sinceSeq ⟨s, .accepting, []⟩ c) :
    good c.state ∧ (p.bus c.state).Sound ∧
      Inv (Taken p sinceSeq ⟨s, .accepting, []⟩ c) sinceSeq (p.bus c.state) c.received c.place := by
  induction run with
  | refl => exact ⟨healthy, sound, rfl⟩
  | @tail before _ reach step ih =>
    obtain ⟨healthy, sound, inv⟩ := ih
    have later := inv_mono (fun _ => taken_later step) inv
    have unpublished : ∀ {bus : EventBus}, Elsewhere (p.bus before.state) bus before.place.queue →
        bus.Sound := by
      intro bus elsewhere
      exact ⟨by rw [elsewhere.published]; exact sound.seqs,
        by rw [elsewhere.published, elsewhere.buffer]; exact sound.buffer⟩
    cases step with
    | publish place received acts =>
      obtain ⟨events, published, numbered⟩ := lawful.publishes _ _ healthy acts
      simp only at sound later ⊢
      rw [published]
      exact ⟨lawful.good_act _ _ healthy acts, publish_sound sound numbered,
        inv_publish later events⟩
    | @advance s₀ s₁ place place' frames received next =>
      have now : Taken p sinceSeq ⟨s, .accepting, []⟩ ⟨s₁, place', received ++ frames⟩
          (p.snapshot s₀) :=
        ⟨_, reach, .single (.advance received next), rfl⟩
      obtain ⟨kept, good', published, buffer⟩ :=
        inv_advance lawful healthy sound later now next
      exact ⟨good', ⟨by rw [published]; exact sound.seqs,
        by rw [published, buffer]; exact sound.buffer⟩, kept⟩
    | disconnect s₀ place received =>
      have same : (leave (p.bus s₀) place).published = (p.bus s₀).published ∧
          (leave (p.bus s₀) place).buffer = (p.bus s₀).buffer := by
        unfold leave
        cases place.queue <;> exact ⟨rfl, rfl⟩
      simp only [lawful.bus_setBus]
      refine ⟨lawful.good_setBus _ _ healthy same.1, ⟨?_, ?_⟩, inv_closed later same.1⟩
      · rw [same.1]
        exact sound.seqs
      · rw [same.1, same.2]
        exact sound.buffer
    | otherSubscribes s₀ place received =>
      have elsewhere := subscribe_elsewhere (p.bus s₀) place.queue
      simp only [lawful.bus_setBus]
      exact ⟨lawful.good_setBus _ _ healthy rfl, unpublished elsewhere,
        inv_elsewhere later elsewhere⟩
    | otherLeaves s₀ place received queue other =>
      have elsewhere := unsubscribe_elsewhere (p.bus s₀) other
      simp only [lawful.bus_setBus]
      exact ⟨lawful.good_setBus _ _ healthy rfl, unpublished elsewhere,
        inv_elsewhere later elsewhere⟩
    | otherGets place received other got =>
      have elsewhere := get_elsewhere other got
      simp only [lawful.bus_setBus]
      exact ⟨lawful.good_setBus _ _ healthy elsewhere.published, unpublished elsewhere,
        inv_elsewhere later elsewhere⟩

theorem began_whole {taken : SnapshotFrame → Prop} {sinceSeq : Option Int} {bus : EventBus}
    (sound : bus.Sound) {header : List Frame} {low : Nat}
    (began : Began taken sinceSeq header low) :
    Whole taken sinceSeq bus.published (header ++ eventFrames (bus.published.drop low)) := by
  rcases began with ⟨seq, same, rfl, rfl⟩ | ⟨frame, member, rfl, rfl⟩
  · left
    exact ⟨seq, same, by rw [after, published_after sound seq]; rfl⟩
  · right
    exact ⟨frame, member, by rw [after, published_after sound frame.lastSeq]; rfl⟩

theorem sent_prefix {published : List Event} {header : List Frame} {low high : Nat}
    {received : List Frame} (sent : Sent published header low high received) :
    received <+: header ++ eventFrames (published.drop low) := by
  rw [sent.frames]
  exact (List.prefix_append_right_inj header).mpr
    (List.IsPrefix.map Frame.event (List.IsPrefix.drop (List.take_prefix high published) low))

theorem sent_everything {published : List Event} {header : List Frame} {low high : Nat}
    {received : List Frame} (sent : Sent published header low high received)
    (all : published.length ≤ high) :
    received = header ++ eventFrames (published.drop low) := by
  rw [sent.frames, List.take_of_length_le all]

theorem holds_nothing {bus : EventBus} {queue next : Nat} (holds : Holds bus queue next)
    (empty : bus.getNowait queue = none) : bus.published.length ≤ next := by
  obtain ⟨q, found, held⟩ := Option.map_eq_some_iff.mp holds.events
  cases events : q.events with
  | nil =>
    rw [events] at held
    exact List.drop_eq_nil_iff.mp held.symm
  | cons event rest =>
    unfold EventBus.getNowait at empty
    rw [found] at empty
    simp only [events] at empty
    cases empty

theorem inv_delivered {taken : SnapshotFrame → Prop} {sinceSeq : Option Int} {bus : EventBus}
    (sound : bus.Sound) {received : List Frame} {place : Place} {frame : SnapshotFrame}
    (some_taken : taken frame) (inv : Inv taken sinceSeq bus received place) :
    Delivered taken sinceSeq bus place received := by
  refine ⟨sound.seqs, ?_⟩
  have nothing : ∀ place', received = [] → ¬ CaughtUp bus place' →
      ∃ frames, Whole taken sinceSeq bus.published frames ∧ received <+: frames ∧
        (CaughtUp bus place' → received = frames) := by
    intro place' empty behind
    refine ⟨_, Or.inr ⟨frame, some_taken, rfl⟩, ?_, fun caught => absurd caught behind⟩
    rw [empty]
    exact List.nil_prefix
  have begun : ∀ place' header low high, ¬ CaughtUp bus place' →
      Began taken sinceSeq header low → Sent bus.published header low high received →
      ∃ frames, Whole taken sinceSeq bus.published frames ∧ received <+: frames ∧
        (CaughtUp bus place' → received = frames) := by
    intro place' header low high behind began sent
    exact ⟨_, began_whole sound began, sent_prefix sent, fun caught => absurd caught behind⟩
  cases place with
  | accepting => exact nothing _ inv id
  | subscribed queue => exact nothing _ inv.1 id
  | snapshotting queue => exact nothing _ inv.1 id
  | sendingSnapshot queue frame => exact nothing _ inv.1 id
  | sendingBacklog queue rest last =>
    obtain ⟨seq, next, total, same, sent, _⟩ := inv
    exact begun _ [] _ _ id (Or.inl ⟨seq, same, rfl, rfl⟩) sent
  | waiting queue last =>
    obtain ⟨header, low, next, began, sent, holds, order⟩ := inv
    refine ⟨_, began_whole sound began, sent_prefix sent, ?_⟩
    intro caught
    have none_left := holds_nothing holds caught
    exact sent_everything sent (by omega)
  | sending queue event last =>
    obtain ⟨header, low, began, sent, _⟩ := inv
    exact begun _ header low _ id began sent
  | closed =>
    rcases inv with empty | ⟨header, low, high, began, sent⟩
    · exact nothing _ empty id
    · exact begun _ header low high id began sent

/-- Exactly-once delivery, for any publisher that keeps to its bus. -/
theorem delivers {p : Publisher σ} {good : σ → Prop} (lawful : p.Lawful good)
    {sinceSeq : Option Int} {s : σ} (healthy : good s) (sound : (p.bus s).Sound) {c : Config σ}
    (run : Reaches p sinceSeq ⟨s, .accepting, []⟩ c) :
    Delivered (Taken p sinceSeq ⟨s, .accepting, []⟩ c) sinceSeq (p.bus c.state) c.place
      c.received := by
  obtain ⟨_, sound', inv⟩ := reaches_inv lawful healthy sound run
  exact inv_delivered sound' ⟨c, run, .refl, rfl⟩ inv

theorem own_stays {p : Publisher σ} {sinceSeq : Option Int} {c c' : Config σ}
    (own : Own p sinceSeq c c') : c'.place ≠ .closed := by
  obtain ⟨received, next⟩ := own
  rename_i s s' place place' frames
  intro shut
  obtain rfl : place' = .closed := shut
  unfold advance at next
  split at next
  all_goals grind

theorem own_reaches {p : Publisher σ} {sinceSeq : Option Int} {c c' : Config σ}
    (runs : Relation.ReflTransGen (Own p sinceSeq) c c') : Reaches p sinceSeq c c' := by
  induction runs with
  | refl => exact .refl
  | tail _ own ih =>
    obtain ⟨received, next⟩ := own
    exact ih.tail (.advance received next)

def CatchesUp (p : Publisher σ) (sinceSeq : Option Int) (c : Config σ) : Prop :=
  ∃ c', Relation.ReflTransGen (Own p sinceSeq) c c' ∧
    CaughtUp (p.bus c'.state) c'.place ∧ (p.bus c'.state).published = (p.bus c.state).published

section
variable {p : Publisher σ} {good : σ → Prop} {sinceSeq : Option Int}

theorem catchesUp_step {c c' : Config σ} (own : Own p sinceSeq c c')
    (published : (p.bus c'.state).published = (p.bus c.state).published)
    (later : CatchesUp p sinceSeq c') : CatchesUp p sinceSeq c := by
  obtain ⟨last, runs, caught, same⟩ := later
  exact ⟨last, .head own runs, caught, same.trans published⟩

theorem waiting_catches_up (lawful : p.Lawful good) {queue : Nat} :
    ∀ left {s : σ} {next : Nat} (last : Int) (received : List Frame),
      (p.bus s).published.length - next = left → Holds (p.bus s) queue next →
      CatchesUp p sinceSeq ⟨s, .waiting queue last, received⟩ := by
  intro left
  induction left with
  | zero =>
    intro s next last received none_left holds
    refine ⟨_, .refl, ?_, rfl⟩
    cases got : (p.bus s).getNowait queue with
    | none => exact got
    | some taken =>
      obtain ⟨here, _⟩ := holds_get holds got
      have within := (List.getElem?_eq_some_iff.mp here).1
      omega
  | succ left ih =>
    intro s next last received more holds
    cases got : (p.bus s).getNowait queue with
    | none => exact ⟨_, .refl, got, rfl⟩
    | some taken =>
      obtain ⟨bus, event⟩ := taken
      obtain ⟨_, published, _, remaining⟩ := holds_get holds got
      have same : (p.bus (p.setBus s bus)).published = (p.bus s).published := by
        rw [lawful.bus_setBus, published]
      have fewer : (p.bus (p.setBus s bus)).published.length - (next + 1) = left := by
        rw [same]
        omega
      rw [← lawful.bus_setBus s bus] at remaining
      by_cases seen : (event.seq : Int) ≤ last
      · have skips : advance p sinceSeq s (.waiting queue last) =
            some (p.setBus s bus, .waiting queue last, []) := by
          simp only [advance, got, if_pos seen]
        exact catchesUp_step (.advance received skips) same (ih last _ fewer remaining)
      · have takes : advance p sinceSeq s (.waiting queue last) =
            some (p.setBus s bus, .sending queue event last, []) := by
          simp only [advance, got, if_neg seen]
        apply catchesUp_step (.advance received takes) same
        exact catchesUp_step (.advance _ rfl) rfl (ih event.seq _ fewer remaining)

theorem backlog_catches_up (lawful : p.Lawful good) {s : σ} {queue next : Nat}
    (holds : Holds (p.bus s) queue next) (rest : List Event) (last : Int)
    (received : List Frame) :
    CatchesUp p sinceSeq ⟨s, .sendingBacklog queue rest last, received⟩ := by
  induction rest generalizing last received with
  | nil =>
    exact catchesUp_step (.advance received rfl) rfl (waiting_catches_up lawful _ _ _ rfl holds)
  | cons event rest ih => exact catchesUp_step (.advance received rfl) rfl (ih event.seq _)

theorem subscribed_catches_up (lawful : p.Lawful good) {s : σ} {queue next : Nat}
    (holds : Holds (p.bus s) queue next) (received : List Frame) :
    CatchesUp p sinceSeq ⟨s, .subscribed queue, received⟩ := by
  have snapshot : CatchesUp p sinceSeq ⟨s, .snapshotting queue, received ++ []⟩ := by
    apply catchesUp_step (.advance _ rfl) rfl
    exact catchesUp_step (.advance _ rfl) rfl (waiting_catches_up lawful _ _ _ rfl holds)
  cases since : sinceSeq with
  | none =>
    rw [since] at snapshot
    exact catchesUp_step (.advance received rfl) rfl snapshot
  | some seq =>
    rw [since] at snapshot
    cases replay : (p.bus s).since seq with
    | none =>
      have looks : advance p (some seq) s (.subscribed queue) =
          some (s, .snapshotting queue, []) := by
        simp only [advance, replay]
      exact catchesUp_step (.advance received looks) rfl snapshot
    | some backlog =>
      have looks : advance p (some seq) s (.subscribed queue) =
          some (s, .sendingBacklog queue backlog seq, []) := by
        simp only [advance, replay]
      exact catchesUp_step (.advance received looks) rfl
        (backlog_catches_up lawful holds backlog seq _)

/-- Wherever the handler has come to, it goes on by itself to the end of what is published. -/
theorem progresses (lawful : p.Lawful good) {s : σ} (healthy : good s)
    (sound : (p.bus s).Sound) {c : Config σ} (run : Reaches p sinceSeq ⟨s, .accepting, []⟩ c) :
    Progresses p sinceSeq c := by
  obtain ⟨_, _, inv⟩ := reaches_inv lawful healthy sound run
  refine ⟨fun _ => own_stays, ?_⟩
  obtain ⟨state, place, received⟩ := c
  intro here
  change CatchesUp p sinceSeq ⟨state, place, received⟩
  cases place with
  | accepting =>
    have holds := subscribe_holds (p.bus state)
    have stored := lawful.bus_setBus state (p.bus state).subscribe.1
    rw [← stored] at holds
    have same := congrArg EventBus.published stored
    exact catchesUp_step (.advance received rfl) same (subscribed_catches_up lawful holds _)
  | subscribed queue =>
    obtain ⟨_, next, holds⟩ := inv
    exact subscribed_catches_up lawful holds received
  | snapshotting queue =>
    obtain ⟨_, next, holds⟩ := inv
    apply catchesUp_step (.advance received rfl) rfl
    exact catchesUp_step (.advance _ rfl) rfl (waiting_catches_up lawful _ _ _ rfl holds)
  | sendingSnapshot queue frame =>
    obtain ⟨_, _, _, next, holds, _⟩ := inv
    exact catchesUp_step (.advance received rfl) rfl (waiting_catches_up lawful _ _ _ rfl holds)
  | sendingBacklog queue rest last =>
    obtain ⟨_, next, _, _, _, _, _, holds, _⟩ := inv
    exact backlog_catches_up lawful holds rest last received
  | waiting queue last =>
    obtain ⟨_, _, next, _, _, holds, _⟩ := inv
    exact waiting_catches_up lawful _ last received rfl holds
  | sending queue event last =>
    obtain ⟨_, _, _, _, _, holds⟩ := inv
    exact catchesUp_step (.advance received rfl) rfl (waiting_catches_up lawful _ _ _ rfl holds)
  | closed => exact absurd rfl here

end

end

end AgentShield.StreamHandler
