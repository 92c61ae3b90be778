import AgentShield.Client.RuntimeStream
import AgentShield.Lib.History

/-!
What it is that the stream of the demo loses nothing, and where a client is that has lost nothing.
-/
namespace AgentShield.Client
open Schema Events Keyed Coop Session LiveRuntimeSession

def Here (demo : Demo) : Prop :=
  demo.client.state.experimentId = some demo.session.sessionId

instance (demo : Demo) : Decidable (Here demo) := inferInstanceAs (Decidable (_ = _))

/-- `recentEvents` are the events up to `lastSeq`, each of them once and in order. -/
def Complete (demo : Demo) : Prop :=
  Here demo → demo.client.state.recentEvents =
    demo.session.log.filter fun event => (event.seq : Int) ≤ demo.client.state.lastSeq

def OneConnection (demo : Demo) : Prop :=
  demo.client.sockets.length + demo.client.reconnects.length ≤ 1

/-- One connection, and no event lost. -/
structure LosesNothing (demo : Demo) : Prop where
  one : OneConnection demo
  complete : Complete demo

def Backfilling (demo : Demo) : Prop :=
  match demo.client.attach with
  | .pageRequested _ => True
  | .pageAnswered _ _ => True
  | _ => False

/-- The snapshot told of events that only the page is to bring. -/
def Owed (demo : Demo) : Prop := Backfilling demo ∧ demo.client.state.lastSeq ≠ -1

structure Recovers (demo : Demo) : Prop where
  one : OneConnection demo
  complete : Complete demo ∨ Owed demo

/- A snapshot that tells of no event that the client does not hold, or the next event. -/
def Awaited (demo : Demo) : StreamFrame → Prop
  | .snapshot frame =>
    frame.lastSeq = if Here demo then demo.client.state.lastSeq else -1
  | .event event _ => demo.client.expectedNextSeq = some (event.seq : Int)

def HandsOver (demo : Demo) (id : Nat) : Prop :=
  ∀ socket ∈ findSocket demo.client id, ∀ next ∈ socket.feed.next demo.session.log,
    Awaited demo next.1

def Blank : AttachPlace → Prop
  | .snapshotAnswered frame => frame.lastSeq = -1
  | _ => True

/-- The snapshot that `attach` takes told of no event yet, and a socket hands over nothing but what
    the client awaits. -/
def Calm (demo : Demo) : Action → Prop
  | .takesSnapshot => Blank demo.client.attach
  | .delivers id => HandsOver demo id
  | _ => True

/- Whatever the snapshot told of, if the page does not fail to come. -/
def Undisturbed (demo : Demo) : Action → Prop
  | .fetchFails => ¬ Owed demo
  | .delivers id => HandsOver demo id
  | _ => True

def Within (demo : Demo) : Prop := demo.session.log.length ≤ eventLogCap

instance (demo : Demo) : Decidable (Within demo) := inferInstanceAs (Decidable (_ ≤ _))

theorem within_ring {demo : Demo} (within : Within demo) :
    demo.session.bus.published.length ≤ ringSize :=
  Nat.le_trans within (by decide)

structure ReadTo (log : List Event) (client : RuntimeStream) (n : Nat) : Prop where
  recent : client.state.recentEvents = log.take n
  last : client.state.lastSeq + 1 = n
  expected : client.expectedNextSeq = some (n : Int)
  inside : n ≤ log.length

structure Elsewhere (s : LiveRuntimeSession) (client : RuntimeStream) : Prop where
  other : client.state.experimentId ≠ some s.sessionId
  unexpected : client.expectedNextSeq = none

/- What it can hear over its sockets once `attach` is over: the snapshot after a failed fetch, or
   what follows the events it has read. -/
inductive Attached (s : LiveRuntimeSession) (client : RuntimeStream) : Prop where
  | blank (elsewhere : Elsewhere s client)
      (feeds : ∀ socket ∈ client.sockets, socket.feed = .opening none ∨
        ∃ frame, socket.feed = .snapshot frame ∧ Genuine s frame)
      (timers : ∀ sinceSeq ∈ client.reconnects, sinceSeq = none)
  | reading {n : Nat} (here : client.state.experimentId = some s.sessionId)
      (read : ReadTo s.log client n)
      (feeds : ∀ socket ∈ client.sockets, ∀ frame, socket.feed = .snapshot frame → Genuine s frame)

structure Fetching (s : LiveRuntimeSession) (client : RuntimeStream) : Prop where
  elsewhere : Elsewhere s client
  sockets : client.sockets = []
  reconnects : client.reconnects = []

/- Its snapshot told of `n` events, and it has read none yet. -/
structure Told (s : LiveRuntimeSession) (client : RuntimeStream) (n : Nat) : Prop where
  here : client.state.experimentId = some s.sessionId
  recent : client.state.recentEvents = []
  last : client.state.lastSeq + 1 = n
  expected : client.expectedNextSeq = some (n : Int)
  inside : n ≤ s.log.length
  sockets : client.sockets = []
  reconnects : client.reconnects = []

def Standing (s : LiveRuntimeSession) (client : RuntimeStream) : AttachPlace → Prop
  | .snapshotRequested => Fetching s client
  | .snapshotAnswered frame => Fetching s client ∧ Genuine s frame
  | .pageRequested lastSeq => lastSeq = client.state.lastSeq ∧ ∃ n, Told s client n
  | .pageAnswered lastSeq events => lastSeq = client.state.lastSeq ∧
      ∃ n k, Told s client n ∧ n ≤ k ∧ k ≤ s.log.length ∧ events = s.log.take k
  | .returned => client.sockets.length + client.reconnects.length ≤ 1 ∧ Attached s client

structure Steady (demo : Demo) : Prop where
  regular : Regular demo.session
  standing : Standing demo.session demo.client demo.client.attach

theorem complete_iff {demo : Demo} (regular : Regular demo.session) (here : Here demo) {n : Nat}
    (inside : n ≤ demo.session.log.length) (last : demo.client.state.lastSeq + 1 = n) :
    Complete demo ↔ demo.client.state.recentEvents = demo.session.log.take n := by
  unfold Complete
  rw [take_of_numbered (regular_seqs regular) inside last]
  exact forall_prop_of_true here

theorem standing_unconnected {s : LiveRuntimeSession} {client : RuntimeStream}
    (standing : Standing s client client.attach) (going : client.attach ≠ .returned) :
    client.sockets = [] ∧ client.reconnects = [] := by
  cases place : client.attach with
  | snapshotRequested =>
    rw [place] at standing
    exact ⟨standing.sockets, standing.reconnects⟩
  | snapshotAnswered frame =>
    rw [place] at standing
    exact ⟨standing.1.sockets, standing.1.reconnects⟩
  | pageRequested lastSeq =>
    rw [place] at standing
    obtain ⟨_, n, told⟩ := standing
    exact ⟨told.sockets, told.reconnects⟩
  | pageAnswered lastSeq events =>
    rw [place] at standing
    obtain ⟨_, n, k, told, _⟩ := standing
    exact ⟨told.sockets, told.reconnects⟩
  | returned => exact absurd place going

theorem standing_connected {s : LiveRuntimeSession} {client : RuntimeStream}
    (standing : Standing s client client.attach)
    (busy : 0 < client.sockets.length + client.reconnects.length) :
    client.attach = .returned ∧ client.sockets.length + client.reconnects.length ≤ 1 ∧
      Attached s client := by
  have over_ : client.attach = .returned := by
    by_contra going
    obtain ⟨sockets, reconnects⟩ := standing_unconnected standing going
    rw [sockets, reconnects] at busy
    cases busy
  rw [over_] at standing
  exact ⟨over_, standing⟩

theorem standing_one {s : LiveRuntimeSession} {client : RuntimeStream}
    (standing : Standing s client client.attach) :
    client.sockets.length + client.reconnects.length ≤ 1 := by
  by_cases busy : 0 < client.sockets.length + client.reconnects.length
  · exact (standing_connected standing busy).2.1
  · omega

theorem standing_backfilling {demo : Demo}
    (standing : Standing demo.session demo.client demo.client.attach)
    (backfilling : Backfilling demo) : ∃ n, Told demo.session demo.client n := by
  unfold Backfilling at backfilling
  cases place : demo.client.attach with
  | snapshotRequested =>
    rw [place] at backfilling
    exact backfilling.elim
  | snapshotAnswered frame =>
    rw [place] at backfilling
    exact backfilling.elim
  | pageRequested lastSeq =>
    rw [place] at standing
    exact standing.2
  | pageAnswered lastSeq events =>
    rw [place] at standing
    obtain ⟨_, n, _, told, _⟩ := standing
    exact ⟨n, told⟩
  | returned =>
    rw [place] at backfilling
    exact backfilling.elim

theorem steady_recovers {demo : Demo} (steady : Steady demo) : Recovers demo := by
  obtain ⟨regular, standing⟩ := steady
  refine ⟨standing_one standing, ?_⟩
  by_cases backfilling : Backfilling demo
  · obtain ⟨n, told⟩ := standing_backfilling standing backfilling
    by_cases none : demo.client.state.lastSeq = -1
    · have last := told.last
      obtain rfl : n = 0 := by omega
      exact Or.inl ((complete_iff regular told.here told.inside told.last).mpr told.recent)
    · exact Or.inr ⟨backfilling, none⟩
  · left
    unfold Backfilling at backfilling
    cases place : demo.client.attach with
    | snapshotRequested =>
      rw [place] at standing
      exact fun here => absurd here standing.elsewhere.other
    | snapshotAnswered frame =>
      rw [place] at standing
      exact fun here => absurd here standing.1.elsewhere.other
    | pageRequested lastSeq =>
      rw [place] at backfilling
      exact absurd trivial backfilling
    | pageAnswered lastSeq events =>
      rw [place] at backfilling
      exact absurd trivial backfilling
    | returned =>
      rw [place] at standing
      cases standing.2 with
      | blank elsewhere => exact fun here => absurd here elsewhere.other
      | reading here read => exact (complete_iff regular here read.inside read.last).mpr read.recent

theorem owed_incomplete {demo : Demo} (steady : Steady demo) (owed : Owed demo) :
    ¬ Complete demo := by
  obtain ⟨backfilling, some_told⟩ := owed
  obtain ⟨n, told⟩ := standing_backfilling steady.standing backfilling
  intro complete
  have none := (complete_iff steady.regular told.here told.inside told.last).mp complete
  have lengths := congrArg List.length (told.recent.symm.trans none)
  rw [List.length_nil, List.length_take_of_le told.inside] at lengths
  have last := told.last
  omega

theorem steady_loses_nothing_iff {demo : Demo} (steady : Steady demo) :
    LosesNothing demo ↔ ¬ Owed demo := by
  obtain ⟨one, recovers⟩ := steady_recovers steady
  constructor
  · intro fine owed
    exact owed_incomplete steady owed fine.complete
  · intro paid
    exact ⟨one, recovers.resolve_right paid⟩

theorem grown_length {s s' : LiveRuntimeSession} (grown : Grown s s') :
    s.log.length ≤ s'.log.length := by
  obtain ⟨later, log⟩ := grown.log
  rw [log, List.length_append]
  exact Nat.le_add_right _ _

theorem grown_take {s s' : LiveRuntimeSession} (grown : Grown s s') {n : Nat}
    (inside : n ≤ s.log.length) : s'.log.take n = s.log.take n := by
  obtain ⟨later, log⟩ := grown.log
  rw [log, List.take_append_of_le_length inside]

theorem elsewhere_grown {s s' : LiveRuntimeSession} (grown : Grown s s') {client : RuntimeStream}
    (elsewhere : Elsewhere s client) : Elsewhere s' client := by
  refine ⟨?_, elsewhere.unexpected⟩
  rw [grown.session]
  exact elsewhere.other

theorem fetching_grown {s s' : LiveRuntimeSession} (grown : Grown s s') {client : RuntimeStream}
    (fetching : Fetching s client) : Fetching s' client :=
  ⟨elsewhere_grown grown fetching.elsewhere, fetching.sockets, fetching.reconnects⟩

theorem told_grown {s s' : LiveRuntimeSession} (grown : Grown s s') {client : RuntimeStream}
    {n : Nat} (told : Told s client n) : Told s' client n :=
  { told with
    here := told.here.trans (congrArg some grown.session.symm)
    inside := Nat.le_trans told.inside (grown_length grown) }

theorem attached_grown {s s' : LiveRuntimeSession} (grown : Grown s s') {client : RuntimeStream}
    (attached : Attached s client) : Attached s' client := by
  cases attached with
  | blank elsewhere feeds timers =>
    refine .blank (elsewhere_grown grown elsewhere) ?_ timers
    intro socket member
    rcases feeds socket member with opening | ⟨frame, sends, genuine⟩
    · exact Or.inl opening
    · exact Or.inr ⟨frame, sends, genuine_grown grown genuine⟩
  | @reading n here read feeds =>
    have read' : ReadTo s'.log client n := by
      refine ⟨?_, read.last, read.expected, Nat.le_trans read.inside (grown_length grown)⟩
      rw [grown_take grown read.inside, read.recent]
    refine .reading (here.trans (congrArg some grown.session.symm)) read' ?_
    intro socket member frame sends
    exact genuine_grown grown (feeds socket member frame sends)

theorem standing_grown {s s' : LiveRuntimeSession} (grown : Grown s s') {client : RuntimeStream}
    {place : AttachPlace} (standing : Standing s client place) : Standing s' client place := by
  cases place with
  | snapshotRequested => exact fetching_grown grown standing
  | snapshotAnswered frame =>
    exact ⟨fetching_grown grown standing.1, genuine_grown grown standing.2⟩
  | pageRequested lastSeq =>
    obtain ⟨last, n, told⟩ := standing
    exact ⟨last, n, told_grown grown told⟩
  | pageAnswered lastSeq events =>
    obtain ⟨last, n, k, told, least, most, given⟩ := standing
    refine ⟨last, n, k, told_grown grown told, least,
      Nat.le_trans most (grown_length grown), ?_⟩
    rw [given, grown_take grown most]
  | returned => exact ⟨standing.1, attached_grown grown standing.2⟩

theorem apply_snapshot (client : RuntimeStream) (frame : SnapshotFrame) :
    client.apply (.snapshot frame) =
      ({ client with
        state := reduceSnapshot client.state frame
        expectedNextSeq := some (frame.lastSeq + 1) }, true) := rfl

theorem apply_event (client : RuntimeStream) (event : Event) :
    client.apply (.event event schemaVersion) =
      ({ client with
        state := reduceEvent client.state event
        expectedNextSeq := some (event.seq + 1) }, true) := rfl

theorem onmessage_snapshot (client : RuntimeStream) (frame : SnapshotFrame) :
    client.onmessage (.snapshot frame) = (client.apply (.snapshot frame)).1 := by
  unfold RuntimeStream.onmessage
  rw [apply_snapshot]
  rfl

theorem onmessage_expected {client : RuntimeStream} {event : Event}
    (expected : client.expectedNextSeq = some (event.seq : Int)) :
    client.onmessage (.event event schemaVersion) =
      (client.apply (.event event schemaVersion)).1 := by
  unfold RuntimeStream.onmessage
  simp only [expected, ne_eq, not_true_eq_false, if_false, apply_event, if_true]

theorem onmessage_desync {client : RuntimeStream} {event : Event} {expected : Int}
    (expects : client.expectedNextSeq = some expected) (differs : (event.seq : Int) ≠ expected) :
    client.onmessage (.event event schemaVersion) = client.close.scheduleReconnect none := by
  unfold RuntimeStream.onmessage
  simp only [expects, if_pos differs]

theorem apply_attach (client : RuntimeStream) (frame : StreamFrame) :
    (client.apply frame).1.attach = client.attach := by
  unfold RuntimeStream.apply
  split
  · rfl
  · rfl

theorem onmessage_attach (client : RuntimeStream) (frame : StreamFrame) :
    (client.onmessage frame).attach = client.attach := by
  have handled : (if (client.apply frame).2 then (client.apply frame).1
      else (client.apply frame).1.close).attach = client.attach := by
    rw [← apply_attach client frame]
    split
    · rfl
    · rfl
  unfold RuntimeStream.onmessage
  cases frame with
  | snapshot frame => exact handled
  | event event schemaVersion =>
    cases client.expectedNextSeq with
    | none => exact handled
    | some expected =>
      dsimp only
      split
      · rfl
      · exact handled

theorem afterPage_attach (client : RuntimeStream) (lastSeq : Int) (events : List Event) :
    (client.afterPage lastSeq events).attach = .returned := by
  unfold RuntimeStream.afterPage
  dsimp only
  split
  · rfl
  · rfl

theorem reduceSnapshot_recent (state : GraphState) (frame : SnapshotFrame) :
    (reduceSnapshot state frame).recentEvents =
      if state.experimentId = some frame.experimentId then state.recentEvents else [] := by
  unfold reduceSnapshot
  by_cases same : some frame.experimentId = state.experimentId
  · simp [same]
  · have other : ¬ state.experimentId = some frame.experimentId := fun equal => same equal.symm
    simp [same, other]

theorem recent_next {log : List Event} {n : Nat} {event : Event} {state : GraphState}
    (recent : state.recentEvents = log.take n) (next : log[n]? = some event)
    (short : log.length ≤ eventLogCap) :
    (reduceEvent state event).recentEvents = log.take (n + 1) := by
  have inside := (List.getElem?_eq_some_iff.mp next).1
  have longer : log.take (n + 1) = log.take n ++ [event] := by
    rw [List.take_add_one, next, Option.toList_some]
  have few : (log.take n ++ [event]).length ≤ eventLogCap := by
    rw [← longer, List.length_take]
    exact Nat.le_trans (Nat.min_le_right _ _) short
  unfold reduceEvent lastOf
  dsimp only
  rw [recent, Nat.sub_eq_zero_of_le few, List.drop_zero, longer]

theorem numbered_at {log : List Event} (seqs : log.map Event.seq = List.range log.length)
    {n : Nat} {event : Event} (here : log[n]? = some event) : event.seq = n := by
  have place : (log.map Event.seq)[n]? = some event.seq := by
    rw [List.getElem?_map, here]
    rfl
  rw [seqs] at place
  obtain ⟨inside, same⟩ := List.getElem?_eq_some_iff.mp place
  rw [List.getElem_range] at same
  exact same.symm

/- A page of history over a client that has none: its first `k` events are read. -/
theorem applyAll_reads {log : List Event} (seqs : log.map Event.seq = List.range log.length)
    (short : log.length ≤ eventLogCap) {k : Nat} (inside : k ≤ log.length) :
    ∀ {events : List Event} {n : Nat} {client : RuntimeStream},
      log.take k = log.take n ++ events → client.state.recentEvents = log.take n →
      (events = [] → client.state.lastSeq + 1 = k ∧ client.expectedNextSeq = some (k : Int)) →
      n ≤ k → ∃ state, client.applyAll events =
          ({ client with state, expectedNextSeq := some (k : Int) }, true) ∧
        state.experimentId = client.state.experimentId ∧ state.recentEvents = log.take k ∧
        state.lastSeq + 1 = k := by
  intro events
  induction events with
  | nil =>
    intro n client rest recent done below
    obtain ⟨last, expected⟩ := done rfl
    refine ⟨client.state, ?_, rfl, ?_, last⟩
    · unfold RuntimeStream.applyAll
      rw [← expected]
    · rw [recent, rest, List.append_nil]
  | cons event rest ih =>
    intro n client split recent done below
    have lengths := congrArg List.length split
    rw [List.length_append, List.length_cons, List.length_take_of_le inside,
      List.length_take_of_le (Nat.le_trans below inside)] at lengths
    have here : log[n]? = some event := by
      have at_ := congrArg (fun events => events[n]?) split
      simp only [List.getElem?_append_right (List.length_take_le n log)] at at_
      rw [List.getElem?_take_of_lt (by omega), List.length_take_of_le (by omega),
        Nat.sub_self] at at_
      exact at_
    have number := numbered_at seqs here
    have more : log.take k = log.take (n + 1) ++ rest := by
      rw [split, List.take_add_one, here, Option.toList_some, List.append_assoc]
      rfl
    have applied := apply_event client event
    obtain ⟨state, all, experiment, recent', last⟩ := @ih (n + 1)
      { client with
        state := reduceEvent client.state event
        expectedNextSeq := some (event.seq + 1) }
      more (recent_next recent here short) (by
        intro none
        rw [none, List.length_nil] at lengths
        have lastSeq : (reduceEvent client.state event).lastSeq = event.seq := rfl
        dsimp only
        rw [lastSeq, number]
        constructor
        · omega
        · congr 1
          omega) (by omega)
    refine ⟨state, ?_, experiment, recent', last⟩
    unfold RuntimeStream.applyAll
    rw [applied]
    exact all

theorem findSocket_some {client : RuntimeStream} {id : Nat} {socket : Socket}
    (found : findSocket client id = some socket) : socket ∈ client.sockets ∧ socket.id = id := by
  unfold findSocket at found
  have named := List.find?_some found
  exact ⟨List.mem_of_find?_eq_some found, of_decide_eq_true named⟩

theorem fed_sockets {client : RuntimeStream} {id : Nat} {feed : Feed} {P : Feed → Prop}
    (each : ∀ socket ∈ client.sockets, P socket.feed) (fresh : P feed) :
    (client.fed id feed).sockets.length = client.sockets.length ∧
      ∀ socket ∈ (client.fed id feed).sockets, P socket.feed := by
  unfold RuntimeStream.fed
  refine ⟨List.length_map _, ?_⟩
  intro socket member
  obtain ⟨before, inside, rfl⟩ := List.mem_map.mp member
  split
  · exact fresh
  · exact each before inside

theorem onclose_alone {client : RuntimeStream} {id : Nat} {socket : Socket}
    (one : client.sockets.length + client.reconnects.length ≤ 1)
    (found : findSocket client id = some socket) :
    (client.onclose id).sockets = [] ∧
      (client.onclose id).reconnects =
        [client.expectedNextSeq.map fun expected => expected - 1] := by
  obtain ⟨member, named⟩ := findSocket_some found
  have some_socket := List.length_pos_of_mem member
  have alone : client.sockets = [socket] := by
    obtain ⟨only, same⟩ := List.length_eq_one_iff.mp (by omega : client.sockets.length = 1)
    rw [same, List.mem_singleton] at member
    rw [same, member]
  have none_waits : client.reconnects = [] := List.length_eq_zero_iff.mp (by omega)
  unfold RuntimeStream.onclose RuntimeStream.scheduleReconnect
  simp [alone, none_waits, named]

theorem reconnect_alone {client : RuntimeStream} {timer : Nat} {sinceSeq : Option Int}
    (one : client.sockets.length + client.reconnects.length ≤ 1)
    (due : client.reconnects[timer]? = some sinceSeq) :
    client.sockets = [] ∧ client.reconnects.eraseIdx timer = [] ∧
      sinceSeq ∈ client.reconnects := by
  have member := List.mem_of_getElem? due
  have some_timer := List.length_pos_of_mem member
  have inside := (List.getElem?_eq_some_iff.mp due).1
  refine ⟨List.length_eq_zero_iff.mp (by omega), ?_, member⟩
  apply List.length_eq_zero_iff.mp
  rw [List.length_eraseIdx_of_lt inside]
  omega

theorem standing_of_socket {s : LiveRuntimeSession} {client : RuntimeStream}
    (standing : Standing s client client.attach) {id : Nat} {socket : Socket}
    (found : findSocket client id = some socket) :
    client.attach = .returned ∧ client.sockets.length + client.reconnects.length ≤ 1 ∧
      Attached s client :=
  standing_connected standing
    (Nat.add_pos_left (List.length_pos_of_mem (findSocket_some found).1) _)

theorem fresh_socket {client : RuntimeStream} (sockets : client.sockets = [])
    (reconnects : client.reconnects = []) (sinceSeq : Option Int) :
    (client.connect sinceSeq).sockets = [⟨client.opened, .opening sinceSeq, false⟩] ∧
      (client.connect sinceSeq).sockets.length +
        (client.connect sinceSeq).reconnects.length ≤ 1 := by
  unfold RuntimeStream.connect
  dsimp only
  rw [sockets, reconnects]
  exact ⟨rfl, Nat.le_refl 1⟩

end AgentShield.Client
