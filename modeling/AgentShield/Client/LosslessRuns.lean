import AgentShield.Client.StreamSteps
import AgentShield.Lib.Trace

/-!
The runs of the stream of the demo in which it loses nothing.
-/
namespace AgentShield.Client
open Schema Events Keyed Coop Session LiveRuntimeSession

def Exact : AttachPlace → Prop
  | .pageAnswered lastSeq events => (events.length : Int) = lastSeq + 1
  | _ => True

/-- Both fetches succeed, and nothing is published between their answers. -/
def Quiet (demo : Demo) : Action → Prop
  | .fetchFails => False
  | .takesPage => Exact demo.client.attach
  | _ => True

/- Whatever is to come over a socket goes on after `lastSeq`. -/
structure Aligned (client : RuntimeStream) : Prop where
  feeds : ∀ socket ∈ client.sockets,
    socket.feed = .opening (some client.state.lastSeq) ∨
      socket.feed = .events (client.state.lastSeq + 1).toNat
  timers : ∀ sinceSeq ∈ client.reconnects, sinceSeq = some client.state.lastSeq

structure ReadsOn (demo : Demo) : Prop where
  steady : Steady demo
  aligned : Aligned demo.client
  here : demo.client.attach = .returned → Here demo

theorem aligned_unconnected {client : RuntimeStream} (sockets : client.sockets = [])
    (reconnects : client.reconnects = []) : Aligned client := by
  constructor
  · intro socket member
    rw [sockets] at member
    cases member
  · intro sinceSeq member
    rw [reconnects] at member
    cases member

theorem readsOn_read {demo : Demo} (reads : ReadsOn demo)
    (busy : 0 < demo.client.sockets.length + demo.client.reconnects.length) :
    demo.client.attach = .returned ∧
      demo.client.sockets.length + demo.client.reconnects.length ≤ 1 ∧
      ∃ n, ReadTo demo.session.log demo.client n := by
  obtain ⟨attach, one, attached⟩ := standing_connected reads.steady.standing busy
  refine ⟨attach, one, ?_⟩
  cases attached with
  | blank elsewhere => exact absurd (reads.here attach) elsewhere.other
  | @reading n here read => exact ⟨n, read⟩

theorem readsOn_next {demo : Demo} (reads : ReadsOn demo) {id : Nat} {socket : Socket}
    {frame : StreamFrame} {feed : Feed} (found : findSocket demo.client id = some socket)
    (next : socket.feed.next demo.session.log = some (frame, feed)) :
    ∃ n event, ReadTo demo.session.log demo.client n ∧ demo.client.sockets = [socket] ∧
      demo.client.reconnects = [] ∧ event.seq = n ∧ frame = .event event schemaVersion ∧
      feed = .events (n + 1) := by
  obtain ⟨member, named⟩ := findSocket_some found
  have busy := List.length_pos_of_mem member
  obtain ⟨attach, one, n, read⟩ := readsOn_read reads (Nat.add_pos_left busy _)
  obtain ⟨only, alone⟩ := List.length_eq_one_iff.mp
    (by omega : demo.client.sockets.length = 1)
  obtain rfl : socket = only := by
    rw [alone, List.mem_singleton] at member
    exact member
  have idle := List.length_eq_zero_iff.mp (by omega : demo.client.reconnects.length = 0)
  have last := read.last
  have place : (demo.client.state.lastSeq + 1).toNat = n := by omega
  rcases reads.aligned.feeds socket member with opening | events
  · rw [opening] at next
    cases next
  · rw [events, place] at next
    obtain ⟨event, published, same⟩ := Option.map_eq_some_iff.mp next
    cases same
    exact ⟨n, event, read, alone, idle,
      numbered_at (regular_seqs reads.steady.regular) published, rfl, rfl⟩

theorem quiet_undisturbed {demo : Demo} {action : Action} (reads : ReadsOn demo)
    (quiet : Quiet demo action) : Undisturbed demo action := by
  cases action with
  | fetchFails => exact quiet.elim
  | delivers id =>
    intro socket found ⟨frame, feed⟩ next
    obtain ⟨n, event, read, _, _, number, rfl, _⟩ := readsOn_next reads found next
    rw [awaited_event, read.expected, number]
  | _ => trivial

theorem quiet_accepts {demo : Demo} (reads : ReadsOn demo) (within : Within demo) {id : Nat}
    {socket : Socket} {sinceSeq : Option Int} (found : findSocket demo.client id = some socket)
    (opening : socket.feed = .opening sinceSeq) :
    Aligned (demo.client.fed id (feedOf demo.session sinceSeq)) := by
  obtain ⟨member, named⟩ := findSocket_some found
  obtain ⟨_, _, n, read⟩ :=
    readsOn_read reads (Nat.add_pos_left (List.length_pos_of_mem member) _)
  have last := read.last
  have since : sinceSeq = some demo.client.state.lastSeq := by
    rcases reads.aligned.feeds socket member with same | other
    · rw [opening] at same
      exact Feed.opening.inj same
    · rw [opening] at other
      cases other
  obtain ⟨events, given⟩ := @since_some _ reads.steady.regular.sound (within_ring within)
    demo.client.state.lastSeq (by omega)
  have feed : feedOf demo.session sinceSeq =
      .events (demo.client.state.lastSeq + 1).toNat := by
    unfold feedOf
    rw [since]
    dsimp only
    rw [given]
  obtain ⟨_, feeds⟩ := @fed_sockets demo.client id (feedOf demo.session sinceSeq)
    (fun feed => feed = .opening (some demo.client.state.lastSeq) ∨
      feed = .events (demo.client.state.lastSeq + 1).toNat)
    reads.aligned.feeds (Or.inr feed)
  exact ⟨feeds, reads.aligned.timers⟩

theorem quiet_delivers {demo : Demo} (reads : ReadsOn demo) {id : Nat} {socket : Socket}
    {frame : StreamFrame} {feed : Feed} (found : findSocket demo.client id = some socket)
    (next : socket.feed.next demo.session.log = some (frame, feed)) :
    Aligned ((demo.client.fed id feed).onmessage frame) ∧
      ((demo.client.fed id feed).onmessage frame).state.experimentId =
        demo.client.state.experimentId := by
  obtain ⟨_, named⟩ := findSocket_some found
  obtain ⟨n, event, read, sockets, reconnects, number, rfl, rfl⟩ := readsOn_next reads found next
  have expected : demo.client.expectedNextSeq = some (event.seq : Int) := by
    rw [read.expected, number]
  rw [@onmessage_expected (demo.client.fed id (.events (n + 1))) event expected, apply_event]
  refine ⟨⟨?_, ?_⟩, rfl⟩
  · intro other member
    have fed : other ∈ (demo.client.fed id (.events (n + 1))).sockets := member
    unfold RuntimeStream.fed at fed
    rw [sockets, List.map_singleton, if_pos named, List.mem_singleton] at fed
    rw [fed]
    apply Or.inr
    have lastSeq : (reduceEvent demo.client.state event).lastSeq = event.seq := rfl
    change Feed.events (n + 1) =
      Feed.events ((reduceEvent demo.client.state event).lastSeq + 1).toNat
    rw [lastSeq, number]
    rfl
  · intro sinceSeq member
    have waits : sinceSeq ∈ demo.client.reconnects := member
    rw [reconnects] at waits
    cases waits

theorem quiet_closes {demo : Demo} (reads : ReadsOn demo) {id : Nat} {socket : Socket}
    (found : findSocket demo.client id = some socket) : Aligned (demo.client.onclose id) := by
  obtain ⟨member, _⟩ := findSocket_some found
  obtain ⟨_, one, n, read⟩ :=
    readsOn_read reads (Nat.add_pos_left (List.length_pos_of_mem member) _)
  obtain ⟨sockets, timers⟩ := onclose_alone one found
  constructor
  · intro other inside
    rw [sockets] at inside
    cases inside
  · intro sinceSeq waits
    have last := read.last
    have lastSeq : (n : Int) - 1 = demo.client.state.lastSeq := by omega
    rw [timers, read.expected, List.mem_singleton, Option.map_some, lastSeq] at waits
    exact waits

theorem quiet_takesPage {demo : Demo} (reads : ReadsOn demo) (within : Within demo) {n k : Nat}
    (told : Told demo.session demo.client n) (least : n ≤ k) (most : k ≤ demo.session.log.length)
    (quiet : ((demo.session.log.take k).length : Int) = demo.client.state.lastSeq + 1) :
    let page := demo.session.log.take k
    Aligned (demo.client.afterPage demo.client.state.lastSeq page) ∧
      (demo.client.afterPage demo.client.state.lastSeq page).state.experimentId =
        some demo.session.sessionId := by
  intro page
  obtain ⟨state, after, experiment, _, last⟩ := afterPage_reads
    (regular_seqs reads.steady.regular) within told.recent told.last told.expected least most
  obtain ⟨opened, _⟩ := @fresh_socket
    { demo.client with state, expectedNextSeq := some (k : Int), attach := .returned } told.sockets
    told.reconnects (some demo.client.state.lastSeq)
  rw [List.length_take_of_le most] at quiet
  have same : demo.client.state.lastSeq = state.lastSeq := by omega
  rw [after]
  refine ⟨⟨?_, ?_⟩, experiment.trans told.here⟩
  · intro socket member
    rw [opened, List.mem_singleton] at member
    rw [member]
    exact Or.inl (congrArg (fun lastSeq => Feed.opening (some lastSeq)) same)
  · intro sinceSeq member
    have waits : sinceSeq ∈ demo.client.reconnects := member
    rw [told.reconnects] at waits
    cases waits

theorem quiet_reconnects {demo : Demo} (reads : ReadsOn demo) {timer : Nat}
    {sinceSeq : Option Int} (due : demo.client.reconnects[timer]? = some sinceSeq) :
    Aligned ({ demo.client with
      reconnects := demo.client.reconnects.eraseIdx timer }.connect sinceSeq) := by
  obtain ⟨_, one, _⟩ := standing_connected reads.steady.standing
    (Nat.add_pos_right _ (List.length_pos_of_mem (List.mem_of_getElem? due)))
  obtain ⟨sockets, timers, member⟩ := reconnect_alone one due
  obtain ⟨opened, _⟩ := @fresh_socket
    { demo.client with reconnects := demo.client.reconnects.eraseIdx timer } sockets timers sinceSeq
  constructor
  · intro socket inside
    rw [opened, List.mem_singleton] at inside
    rw [inside, reads.aligned.timers sinceSeq member]
    exact Or.inl rfl
  · intro other left
    exact reads.aligned.timers other (List.mem_of_mem_eraseIdx left)

theorem quiet_step {demo demo' : Demo} {action : Action} (reads : ReadsOn demo)
    (within : Within demo') (stepped : demo.step action = some demo') (quiet : Quiet demo action) :
    Undisturbed demo action ∧ ReadsOn demo' := by
  have undisturbed := quiet_undisturbed reads quiet
  have steady := (step_meets reads.steady within stepped).1 undisturbed
  suffices on : Aligned demo'.client ∧ (demo'.client.attach = .returned → Here demo') from
    ⟨undisturbed, steady, on.1, on.2⟩
  have aligned := reads.aligned
  have connected : ∀ {id socket}, findSocket demo.client id = some socket → Here demo :=
    fun found => reads.here (standing_of_socket reads.steady.standing found).1
  cases step_cases stepped with
  | serves op =>
    refine ⟨aligned, fun attach => (reads.here attach).trans ?_⟩
    exact congrArg some (regular_step reads.steady.regular op).2.session.symm
  | answersSnapshot asked => exact ⟨⟨aligned.feeds, aligned.timers⟩, nofun⟩
  | takesSnapshot answered =>
    have going : demo.client.attach ≠ .returned := by
      rw [answered]
      nofun
    obtain ⟨sockets, reconnects⟩ := standing_unconnected reads.steady.standing going
    exact ⟨aligned_unconnected sockets reconnects, nofun⟩
  | refusesPage asked refused =>
    rw [since_given reads.steady.regular within] at refused
    cases refused
  | answersPage asked given => exact ⟨⟨aligned.feeds, aligned.timers⟩, nofun⟩
  | takesPage answered =>
    have standing := reads.steady.standing
    rw [answered] at standing
    obtain ⟨rfl, n, k, told, least, most, rfl⟩ := standing
    unfold Quiet at quiet
    dsimp only at quiet
    rw [answered] at quiet
    obtain ⟨aligned', here⟩ := quiet_takesPage reads within told least most quiet
    exact ⟨aligned', fun _ => here⟩
  | fetchFails => exact quiet.elim
  | reconnects due => exact ⟨quiet_reconnects reads due, reads.here⟩
  | accepts found opening =>
    exact ⟨quiet_accepts reads within found opening, fun _ => connected found⟩
  | delivers found next =>
    obtain ⟨aligned', same⟩ := quiet_delivers reads found next
    exact ⟨aligned', fun _ => same.trans (connected found)⟩
  | closes found => exact ⟨quiet_closes reads found, fun _ => connected found⟩

theorem start_steady (sessionId : Uuid) (objective : String) (before : List Operation)
    {state : GraphState} (elsewhere : state.experimentId ≠
      some (serial perform (LiveRuntimeSession.new sessionId objective) before).sessionId) :
    Steady ⟨serial perform (LiveRuntimeSession.new sessionId objective) before, .new state⟩ := by
  refine ⟨run_regular sessionId objective before, ?_⟩
  exact ⟨⟨elsewhere, rfl⟩, rfl, rfl⟩

/-- After a quiet attach every step is undisturbed, however often the connection is lost. -/
theorem quiet_run_undisturbed (sessionId : Uuid) (objective : String) (before : List Operation)
    {state : GraphState} {actions : List Action} :
    let s := serial perform (LiveRuntimeSession.new sessionId objective) before
    let start : Demo := ⟨s, .new state⟩
    state.experimentId ≠ some s.sessionId → Trace.Visits Demo.step Within start actions →
      Trace.Takes Demo.step Quiet start actions →
        Trace.Takes Demo.step Undisturbed start actions := by
  intro s start elsewhere within quiet
  have reads : ReadsOn start := by
    refine ⟨start_steady sessionId objective before elsewhere, aligned_unconnected rfl rfl, nofun⟩
  exact Trace.takes_of_takes (fun demo action demo' reads within stepped quiet =>
    quiet_step reads within stepped quiet) reads within quiet

/-- While there are no more events than the display keeps, the client loses no event for good all
    through a run exactly if every step of it is undisturbed. -/
theorem stream_recovers_iff (sessionId : Uuid) (objective : String) (before : List Operation)
    (state : GraphState) (actions : List Action) :
    let s := serial perform (LiveRuntimeSession.new sessionId objective) before
    let start : Demo := ⟨s, .new state⟩
    state.experimentId ≠ some s.sessionId → Trace.Visits Demo.step Within start actions →
      (Trace.Visits Demo.step Recovers start actions ↔
        Trace.Takes Demo.step Undisturbed start actions) := by
  intro s start elsewhere within
  have steady := start_steady sessionId objective before elsewhere
  refine Trace.visits_iff_takes (fun _ steady => steady_recovers steady) ?_ steady within
  intro demo action demo' steady within stepped
  obtain ⟨meets, fails⟩ := step_meets steady within stepped
  refine ⟨⟨?_, fun calm => steady_recovers (meets calm)⟩, meets⟩
  intro fine
  by_contra disturbed
  exact fails disturbed fine

/-- And it loses none at any moment exactly if every step of it is calm. -/
theorem stream_loses_nothing_iff (sessionId : Uuid) (objective : String)
    (before : List Operation) (state : GraphState) (actions : List Action) :
    let s := serial perform (LiveRuntimeSession.new sessionId objective) before
    let start : Demo := ⟨s, .new state⟩
    state.experimentId ≠ some s.sessionId → Trace.Visits Demo.step Within start actions →
      (Trace.Visits Demo.step LosesNothing start actions ↔
        Trace.Takes Demo.step Calm start actions) := by
  intro s start elsewhere within
  have steady := start_steady sessionId objective before elsewhere
  have settled : Settled start := ⟨steady, fun owed => owed.1⟩
  exact Trace.visits_iff_takes (fun _ settled => settled_loses_nothing settled)
    (fun _ _ _ settled within stepped => calm_meets settled within stepped) settled within

instance (demo : Demo) : ∀ frame : StreamFrame, Decidable (Awaited demo frame)
  | .snapshot frame => inferInstanceAs
      (Decidable (frame.lastSeq = if Here demo then demo.client.state.lastSeq else -1))
  | .event event _ =>
    inferInstanceAs (Decidable (demo.client.expectedNextSeq = some (event.seq : Int)))

instance (demo : Demo) (id : Nat) : Decidable (HandsOver demo id) :=
  inferInstanceAs (Decidable (∀ socket ∈ findSocket demo.client id,
    ∀ next ∈ socket.feed.next demo.session.log, Awaited demo next.1))

instance : ∀ place : AttachPlace, Decidable (Blank place)
  | .snapshotAnswered frame => inferInstanceAs (Decidable (frame.lastSeq = -1))
  | .snapshotRequested => .isTrue trivial
  | .pageRequested _ => .isTrue trivial
  | .pageAnswered _ _ => .isTrue trivial
  | .returned => .isTrue trivial

instance (demo : Demo) : ∀ action : Action, Decidable (Calm demo action)
  | .takesSnapshot => inferInstanceAs (Decidable (Blank demo.client.attach))
  | .delivers id => inferInstanceAs (Decidable (HandsOver demo id))
  | .serves _ => .isTrue trivial
  | .answersSnapshot => .isTrue trivial
  | .answersPage => .isTrue trivial
  | .takesPage => .isTrue trivial
  | .fetchFails => .isTrue trivial
  | .reconnects _ => .isTrue trivial
  | .accepts _ => .isTrue trivial
  | .closes _ => .isTrue trivial

def register (workerId : String) : Operation := .registerWorker workerId "researcher" [] none false

def attaching (before : List Operation) : Demo :=
  ⟨serial perform (LiveRuntimeSession.new 0 "objective") before, .new initialGraphState⟩

def calmRun : List Action :=
  [.answersSnapshot, .takesSnapshot, .answersPage, .takesPage, .accepts 0,
    .serves (register "coder"), .delivers 0, .closes 0, .serves (register "tester"),
    .reconnects 0, .accepts 1, .delivers 1]

theorem calm_run_loses_nothing : Trace.Visits Demo.step LosesNothing (attaching []) calmRun := by
  have elsewhere : initialGraphState.experimentId ≠
      some (serial perform (LiveRuntimeSession.new 0 "objective") []).sessionId := nofun
  have within : Trace.Visits Demo.step Within (attaching []) calmRun := by decide
  have calm : Trace.Takes Demo.step Calm (attaching []) calmRun := by decide
  exact (stream_loses_nothing_iff 0 "objective" [] initialGraphState calmRun elsewhere within).mpr
    calm

def desyncRun : List Action :=
  [.answersSnapshot, .takesSnapshot, .serves (register "coder"), .answersPage, .takesPage,
    .accepts 0, .delivers 0, .closes 0, .serves (register "tester"), .reconnects 0,
    .reconnects 0, .accepts 1, .accepts 2, .delivers 1]

/-- Two open sockets, and the last of three events is not among the recent ones. -/
theorem desync_loses_an_event :
    ∃ demo ∈ desyncRun.foldlM Demo.step (attaching [register "reader"]),
      (demo.client.sockets.map Socket.closing = [false, false]) ∧
        demo.session.log.map Event.seq = [0, 1, 2] ∧ demo.client.state.lastSeq = 2 ∧
        demo.client.state.recentEvents.map Event.seq = [0, 1] := by
  decide

end AgentShield.Client
