import Mathlib.Data.List.Basic
import AgentShield.Events.Bus

/-!
The laws of the replay buffer: it holds the last events published, numbered as
published, and `since` answers with every later event or not at all.
-/
namespace AgentShield.Events
open Schema Keyed

/-- Published events are numbered from 0, and the buffer is their last `ringSize`. -/
structure EventBus.Sound (bus : EventBus) : Prop where
  seqs : bus.published.map Event.seq = List.range bus.published.length
  buffer : bus.buffer = bus.published.drop (bus.published.length - ringSize)

theorem new_sound : EventBus.new.Sound := ⟨rfl, rfl⟩

theorem ringAppend_last (published : List Event) (event : Event) :
    ringAppend (published.drop (published.length - ringSize)) event =
      (published ++ [event]).drop ((published ++ [event]).length - ringSize) := by
  unfold ringAppend
  rw [List.length_drop, List.length_append, List.length_singleton]
  by_cases room : published.length < ringSize
  · have here : published.length - (published.length - ringSize) < ringSize := by omega
    have none_dropped : published.length - ringSize = 0 := by omega
    have none_later : published.length + 1 - ringSize = 0 := by omega
    rw [if_pos here, none_dropped, none_later]
    rfl
  · have full : ¬ published.length - (published.length - ringSize) < ringSize := by omega
    have within : published.length + 1 - ringSize ≤ published.length := by
      have positive : 0 < ringSize := by decide
      omega
    have next : published.length - ringSize + 1 = published.length + 1 - ringSize := by omega
    rw [if_neg full, List.tail_drop, next, List.drop_append_of_le_length within]

theorem publishOne_sound {bus : EventBus} (sound : bus.Sound) {event : Event}
    (next : event.seq = bus.published.length) : (bus.publishOne event).Sound := by
  constructor
  · simp only [EventBus.publishOne, List.map_append, List.map_cons, List.map_nil, sound.seqs, next,
      List.length_append, List.length_singleton, List.range_succ]
  · simp only [EventBus.publishOne, sound.buffer, ringAppend_last]

theorem publish_sound {bus : EventBus} (sound : bus.Sound) {events : List Event}
    (next : events.map Event.seq = List.range' bus.published.length events.length) :
    (bus.publish events).Sound := by
  induction events generalizing bus with
  | nil => exact sound
  | cons event rest ih =>
    simp only [List.map_cons, List.length_cons, List.range'_succ, List.cons.injEq] at next
    have first := publishOne_sound sound next.1
    have grown : (bus.publishOne event).published.length = bus.published.length + 1 := by
      simp [EventBus.publishOne]
    exact ih first (by rw [grown]; exact next.2)

theorem filter_after (events : List Event) (first : Nat)
    (seqs : events.map Event.seq = List.range' first events.length) (seq : Int) :
    (events.filter fun event => (event.seq : Int) > seq) =
      events.drop (seq + 1 - first).toNat := by
  induction events generalizing first with
  | nil => simp
  | cons event rest ih =>
    simp only [List.map_cons, List.length_cons, List.range'_succ, List.cons.injEq] at seqs
    obtain ⟨here, later⟩ := seqs
    have tail := ih (first + 1) later
    by_cases kept : (event.seq : Int) > seq
    · have none_dropped : (seq + 1 - (first : Int)).toNat = 0 := by omega
      have none_later : (seq + 1 - ((first + 1 : Nat) : Int)).toNat = 0 := by omega
      rw [none_later, List.drop_zero] at tail
      rw [none_dropped, List.drop_zero, List.filter_cons_of_pos (by simpa using kept), tail]
    · have one_more : (seq + 1 - (first : Int)).toNat =
          (seq + 1 - ((first + 1 : Nat) : Int)).toNat + 1 := by omega
      rw [List.filter_cons_of_neg (by simpa using kept), tail, one_more, List.drop_succ_cons]

theorem sound_drop_seqs {bus : EventBus} (sound : bus.Sound) (n : Nat) :
    (bus.published.drop n).map Event.seq =
      List.range' n (bus.published.length - n) := by
  rw [List.map_drop, sound.seqs, List.range_eq_range', List.drop_range']
  simp

theorem published_after {bus : EventBus} (sound : bus.Sound) (seq : Int) :
    (bus.published.filter fun event => (event.seq : Int) > seq) =
      bus.published.drop (seq + 1).toNat := by
  have after := filter_after bus.published 0 (by simpa using sound_drop_seqs sound 0) seq
  simpa using after

theorem oldest_seq {bus : EventBus} (sound : bus.Sound) {oldest : Event} {rest : List Event}
    (held : bus.buffer = oldest :: rest) :
    oldest.seq = bus.published.length - ringSize := by
  have seqs := sound_drop_seqs sound (bus.published.length - ringSize)
  rw [← sound.buffer] at seqs
  have head := congrArg List.head? seqs
  rw [held, List.map_cons, List.head?_cons, List.head?_range'] at head
  split at head
  · cases head
  · exact Option.some.inj head

theorem buffer_nil {bus : EventBus} (sound : bus.Sound) (held : bus.buffer = []) :
    bus.published = [] := by
  have empty := sound.buffer
  rw [held] at empty
  have short := List.drop_eq_nil_iff.mp empty.symm
  have positive : 0 < ringSize := by decide
  exact List.length_eq_zero_iff.mp (by omega)

/-- What `since` returns is complete: every published event with a larger number. -/
theorem since_complete {bus : EventBus} (sound : bus.Sound) {seq : Int} {events : List Event}
    (found : bus.since seq = some events) : events = bus.published.drop (seq + 1).toNat := by
  unfold EventBus.since at found
  cases held : bus.buffer with
  | nil =>
    rw [held] at found
    obtain rfl := Option.some.inj found
    have nothing := buffer_nil sound held
    simp [nothing]
  | cons oldest rest =>
    have seqs := sound_drop_seqs sound (bus.published.length - ringSize)
    rw [← sound.buffer] at seqs
    have first := oldest_seq sound held
    rw [held] at found
    simp only at found
    split at found
    · cases found
    · rename_i near
      obtain rfl := Option.some.inj found
      have size : bus.buffer.length =
          bus.published.length - (bus.published.length - ringSize) := by
        rw [sound.buffer, List.length_drop]
      have after := filter_after bus.buffer (bus.published.length - ringSize)
        (by rw [seqs, size]) seq
      rw [← held, after, sound.buffer, List.drop_drop]
      congr 1
      omega

/-- From the start: everything, until the first event is evicted; then nothing at all. -/
theorem since_start {bus : EventBus} (sound : bus.Sound) :
    bus.since (-1) =
      if bus.published.length ≤ ringSize then some bus.published else none := by
  cases answer : bus.since (-1) with
  | none =>
    unfold EventBus.since at answer
    split at answer
    · cases answer
    · rename_i oldest rest held
      split at answer
      · rename_i evicted
        rw [oldest_seq sound held] at evicted
        rw [if_neg (by omega)]
      · cases answer
  | some events =>
    have all := since_complete sound answer
    rw [if_pos, all]
    · rfl
    · unfold EventBus.since at answer
      split at answer
      · rename_i held
        rw [buffer_nil sound held]
        exact Nat.zero_le ringSize
      · rename_i oldest rest held
        split at answer
        · cases answer
        · rename_i kept
          rw [oldest_seq sound held] at kept
          omega

/-- Nothing is evicted before the buffer is full. -/
theorem since_some {bus : EventBus} (sound : bus.Sound) (room : bus.published.length ≤ ringSize)
    {seq : Int} (least : -1 ≤ seq) : ∃ events, bus.since seq = some events := by
  unfold EventBus.since
  cases held : bus.buffer with
  | nil => exact ⟨_, rfl⟩
  | cons oldest rest =>
    have first := oldest_seq sound held
    dsimp only
    rw [if_neg (by omega)]
    exact ⟨_, rfl⟩

end AgentShield.Events
