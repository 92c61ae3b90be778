import AgentShield.Client.LosslessStream

/-!
One step of the stream of the demo: a calm step leaves the client where it has lost nothing, and any
other step does not.
-/
namespace AgentShield.Client
open Schema Events Keyed Coop Session LiveRuntimeSession

theorem answersSnapshot_standing {s : LiveRuntimeSession} (regular : Regular s)
    {client : RuntimeStream} (fetching : Fetching s client) :
    Standing s { client with attach := .snapshotAnswered (Session.snapshot s) }
      (.snapshotAnswered (Session.snapshot s)) := by
  obtain ⟨elsewhere, sockets, reconnects⟩ := fetching
  exact ⟨⟨⟨elsewhere.other, elsewhere.unexpected⟩, sockets, reconnects⟩, snapshot_genuine regular⟩

theorem takesSnapshot_standing {s : LiveRuntimeSession} {client : RuntimeStream}
    {frame : SnapshotFrame} (fetching : Fetching s client) (genuine : Genuine s frame) :
    Standing s (client.afterSnapshot frame) (.pageRequested frame.lastSeq) := by
  obtain ⟨n, last, inside⟩ := genuine.numbered
  have new : ¬ client.state.experimentId = some frame.experimentId := by
    rw [genuine.session]
    exact fetching.elsewhere.other
  have recent : (reduceSnapshot client.state frame).recentEvents = [] :=
    (reduceSnapshot_recent client.state frame).trans (if_neg new)
  exact ⟨rfl, n, congrArg some genuine.session, recent, last, congrArg some last, inside,
    fetching.sockets, fetching.reconnects⟩

theorem answersPage_standing {s : LiveRuntimeSession} {client : RuntimeStream} {n : Nat}
    (told : Told s client n) :
    Standing s { client with attach := .pageAnswered client.state.lastSeq s.log }
      (.pageAnswered client.state.lastSeq s.log) := by
  refine ⟨rfl, n, s.log.length, ?_, told.inside, Nat.le_refl _, List.take_length.symm⟩
  exact ⟨told.here, told.recent, told.last, told.expected, told.inside, told.sockets,
    told.reconnects⟩

theorem afterPage_reads {log : List Event} (seqs : log.map Event.seq = List.range log.length)
    (short : log.length ≤ eventLogCap) {client : RuntimeStream} {n k : Nat}
    (recent : client.state.recentEvents = []) (last : client.state.lastSeq + 1 = n)
    (expected : client.expectedNextSeq = some (n : Int)) (least : n ≤ k) (most : k ≤ log.length) :
    ∃ state : GraphState, client.afterPage client.state.lastSeq (log.take k) =
        { client with
          state
          expectedNextSeq := some (k : Int)
          attach := .returned }.connect (some client.state.lastSeq) ∧
      state.experimentId = client.state.experimentId ∧ state.recentEvents = log.take k ∧
      state.lastSeq + 1 = k := by
  have none : log.take k = [] → n = 0 ∧ k = 0 := by
    intro empty
    have lengths := congrArg List.length empty
    rw [List.length_take_of_le most, List.length_nil] at lengths
    omega
  obtain ⟨state, all, rest⟩ := @applyAll_reads log seqs short k most (log.take k) 0 client
    (by simp) (by simp [recent])
    (by
      intro empty
      obtain ⟨rfl, rfl⟩ := none empty
      exact ⟨last, expected⟩)
    (Nat.zero_le k)
  refine ⟨state, ?_, rest⟩
  unfold RuntimeStream.afterPage
  rw [all]
  rfl

theorem takesPage_standing {s : LiveRuntimeSession} {client : RuntimeStream} {n k : Nat}
    (seqs : s.log.map Event.seq = List.range s.log.length) (short : s.log.length ≤ eventLogCap)
    (told : Told s client n) (least : n ≤ k) (most : k ≤ s.log.length) :
    Standing s (client.afterPage client.state.lastSeq (s.log.take k)) .returned := by
  obtain ⟨state, after, experiment, recent, last⟩ :=
    afterPage_reads seqs short told.recent told.last told.expected least most
  rw [after]
  obtain ⟨opened, one⟩ := @fresh_socket
    { client with state, expectedNextSeq := some (k : Int), attach := .returned } told.sockets
    told.reconnects (some client.state.lastSeq)
  refine ⟨one, .reading (experiment.trans told.here) ⟨recent, last, rfl, most⟩ ?_⟩
  intro socket member frame sends
  rw [opened, List.mem_singleton] at member
  rw [member] at sends
  cases sends

theorem fallBack_socket {client : RuntimeStream} (sockets : client.sockets = [])
    (reconnects : client.reconnects = []) :
    client.fallBack.sockets = [⟨client.opened, .opening none, false⟩] ∧
      client.fallBack.sockets.length + client.fallBack.reconnects.length ≤ 1 :=
  @fresh_socket { client with attach := .returned } sockets reconnects none

theorem fallBack_fetching {s : LiveRuntimeSession} {client : RuntimeStream}
    (fetching : Fetching s client) : Standing s client.fallBack .returned := by
  obtain ⟨elsewhere, sockets, reconnects⟩ := fetching
  obtain ⟨opened, one⟩ := fallBack_socket sockets reconnects
  refine ⟨one, .blank ⟨elsewhere.other, elsewhere.unexpected⟩ ?_ ?_⟩
  · intro socket member
    rw [opened, List.mem_singleton] at member
    rw [member]
    exact Or.inl rfl
  · intro sinceSeq member
    have waits : sinceSeq ∈ client.reconnects := member
    rw [reconnects] at waits
    cases waits

theorem fallBack_told {s : LiveRuntimeSession} {client : RuntimeStream} {n : Nat}
    (told : Told s client n) (none : client.state.lastSeq = -1) :
    Standing s client.fallBack .returned := by
  obtain ⟨opened, one⟩ := fallBack_socket told.sockets told.reconnects
  have last := told.last
  obtain rfl : n = 0 := by omega
  have read : ReadTo s.log client.fallBack 0 :=
    ⟨told.recent, told.last, told.expected, told.inside⟩
  refine ⟨one, .reading told.here read ?_⟩
  intro socket member frame sends
  rw [opened, List.mem_singleton] at member
  rw [member] at sends
  cases sends

theorem fallBack_standing {s : LiveRuntimeSession} {client : RuntimeStream}
    (standing : Standing s client client.attach) (going : client.attach ≠ .returned)
    (paid : ¬ Owed ⟨s, client⟩) :
    Standing s client.fallBack .returned := by
  by_cases backfilling : Backfilling ⟨s, client⟩
  · obtain ⟨n, told⟩ := @standing_backfilling ⟨s, client⟩ standing backfilling
    have none : client.state.lastSeq = -1 := by
      by_contra some_told
      exact paid ⟨backfilling, some_told⟩
    exact fallBack_told told none
  · unfold Backfilling at backfilling
    dsimp only at backfilling
    cases place : client.attach with
    | snapshotRequested =>
      rw [place] at standing
      exact fallBack_fetching standing
    | snapshotAnswered frame =>
      rw [place] at standing
      exact fallBack_fetching standing.1
    | pageRequested lastSeq =>
      rw [place] at backfilling
      exact absurd trivial backfilling
    | pageAnswered lastSeq events =>
      rw [place] at backfilling
      exact absurd trivial backfilling
    | returned => exact absurd place going

theorem fails_disturbed {demo : Demo} (steady : Steady demo) (owed : Owed demo) :
    ¬ Recovers ⟨demo.session, demo.client.fallBack⟩ := by
  intro fine
  have complete := fine.complete.resolve_right fun going => going.1
  exact owed_incomplete steady owed complete

theorem reconnects_standing {s : LiveRuntimeSession} {client : RuntimeStream} {timer : Nat}
    {sinceSeq : Option Int} (standing : Standing s client client.attach)
    (due : client.reconnects[timer]? = some sinceSeq) :
    client.attach = .returned ∧ Standing s
      ({ client with reconnects := client.reconnects.eraseIdx timer }.connect sinceSeq)
      .returned := by
  have busy := List.length_pos_of_mem (List.mem_of_getElem? due)
  obtain ⟨attach, one, attached⟩ := standing_connected standing (Nat.add_pos_right _ busy)
  obtain ⟨sockets, timers, member⟩ := reconnect_alone one due
  obtain ⟨opened, one'⟩ := @fresh_socket
    { client with reconnects := client.reconnects.eraseIdx timer } sockets timers sinceSeq
  refine ⟨attach, one', ?_⟩
  cases attached with
  | blank elsewhere feeds waits =>
    refine .blank ⟨elsewhere.other, elsewhere.unexpected⟩ ?_ ?_
    · intro socket inside
      rw [opened, List.mem_singleton] at inside
      rw [inside, waits sinceSeq member]
      exact Or.inl rfl
    · intro other left
      have erased : other ∈ client.reconnects.eraseIdx timer := left
      rw [timers] at erased
      cases erased
  | reading here read feeds =>
    refine .reading here ⟨read.recent, read.last, read.expected, read.inside⟩ ?_
    intro socket inside frame sends
    rw [opened, List.mem_singleton] at inside
    rw [inside] at sends
    cases sends

theorem feedOf_genuine {s : LiveRuntimeSession} (regular : Regular s) {sinceSeq : Option Int}
    {frame : SnapshotFrame} (sends : feedOf s sinceSeq = .snapshot frame) : Genuine s frame := by
  have now := snapshot_genuine regular
  unfold feedOf at sends
  split at sends
  · cases sends
    exact now
  · split at sends
    · cases sends
      exact now
    · cases sends

theorem accepts_standing {s : LiveRuntimeSession} (regular : Regular s) {client : RuntimeStream}
    {id : Nat} {socket : Socket} {sinceSeq : Option Int}
    (standing : Standing s client client.attach)
    (found : findSocket client id = some socket) (opening : socket.feed = .opening sinceSeq) :
    client.attach = .returned ∧ Standing s (client.fed id (feedOf s sinceSeq)) .returned := by
  obtain ⟨attach, one, attached⟩ := standing_of_socket standing found
  obtain ⟨member, named⟩ := findSocket_some found
  refine ⟨attach, ?_⟩
  cases attached with
  | blank elsewhere feeds timers =>
    have since : sinceSeq = none := by
      rcases feeds socket member with same | ⟨frame, other, _⟩
      · rw [opening] at same
        exact Feed.opening.inj same
      · rw [opening] at other
        cases other
    have fresh : ∃ frame, feedOf s sinceSeq = .snapshot frame ∧ Genuine s frame := by
      rw [since]
      exact ⟨_, rfl, snapshot_genuine regular⟩
    obtain ⟨lengths, feeds'⟩ := @fed_sockets client id _ (fun feed => feed = .opening none ∨
      ∃ frame, feed = .snapshot frame ∧ Genuine s frame) feeds (Or.inr fresh)
    refine ⟨?_, .blank ⟨elsewhere.other, elsewhere.unexpected⟩ feeds' timers⟩
    rw [lengths]
    exact one
  | reading here read feeds =>
    obtain ⟨lengths, feeds'⟩ := @fed_sockets client id _
      (fun feed => ∀ frame, feed = .snapshot frame → Genuine s frame) feeds
      (fun frame sends => feedOf_genuine regular sends)
    refine ⟨?_, .reading here ⟨read.recent, read.last, read.expected, read.inside⟩ feeds'⟩
    rw [lengths]
    exact one

theorem closes_standing {s : LiveRuntimeSession} {client : RuntimeStream} {id : Nat}
    {socket : Socket} (standing : Standing s client client.attach)
    (found : findSocket client id = some socket) :
    client.attach = .returned ∧ Standing s (client.onclose id) .returned := by
  obtain ⟨attach, one, attached⟩ := standing_of_socket standing found
  obtain ⟨sockets, timers⟩ := onclose_alone one found
  have one' : (client.onclose id).sockets.length + (client.onclose id).reconnects.length ≤ 1 := by
    rw [sockets, timers]
    exact Nat.le_refl 1
  refine ⟨attach, one', ?_⟩
  cases attached with
  | blank elsewhere feeds waits =>
    refine .blank ⟨elsewhere.other, elsewhere.unexpected⟩ ?_ ?_
    · intro other member
      rw [sockets] at member
      cases member
    · intro sinceSeq member
      rw [timers, elsewhere.unexpected, List.mem_singleton] at member
      exact member
  | reading here read feeds =>
    refine .reading here ⟨read.recent, read.last, read.expected, read.inside⟩ ?_
    intro other member
    rw [sockets] at member
    cases member

theorem next_cases {log : List Event} {feed feed' : Feed} {frame : StreamFrame}
    (next : feed.next log = some (frame, feed')) :
    (∃ shown, feed = .snapshot shown ∧ frame = .snapshot shown ∧ ∃ n, feed' = .events n) ∨
      ∃ n event, feed = .events n ∧ log[n]? = some event ∧ frame = .event event schemaVersion ∧
        feed' = .events (n + 1) := by
  cases feed with
  | opening sinceSeq => cases next
  | snapshot shown =>
    cases next
    exact Or.inl ⟨shown, rfl, rfl, _, rfl⟩
  | events n =>
    obtain ⟨event, published, same⟩ := Option.map_eq_some_iff.mp next
    cases same
    exact Or.inr ⟨n, event, rfl, published, rfl, rfl⟩

theorem awaited_snapshot (demo : Demo) (frame : SnapshotFrame) :
    Awaited demo (.snapshot frame) ↔
      frame.lastSeq = if Here demo then demo.client.state.lastSeq else -1 := Iff.rfl

theorem awaited_event (demo : Demo) (event : Event) (schemaVersion : Nat) :
    Awaited demo (.event event schemaVersion) ↔
      demo.client.expectedNextSeq = some (event.seq : Int) := Iff.rfl

theorem read_before {demo : Demo} (steady : Steady demo) {id : Nat} {socket : Socket}
    {frame : SnapshotFrame} (found : findSocket demo.client id = some socket)
    (sends : socket.feed = .snapshot frame) :
    Genuine demo.session frame ∧ ∃ n ≤ demo.session.log.length,
      (reduceSnapshot demo.client.state frame).recentEvents = demo.session.log.take n ∧
        (Awaited demo (.snapshot frame) ↔ frame.lastSeq + 1 = n) := by
  obtain ⟨_, _, attached⟩ := standing_of_socket steady.standing found
  obtain ⟨member, _⟩ := findSocket_some found
  cases attached with
  | blank elsewhere feeds =>
    have genuine : Genuine demo.session frame := by
      rcases feeds socket member with opening | ⟨other, same, genuine⟩
      · rw [opening] at sends
        cases sends
      · rw [same] at sends
        cases sends
        exact genuine
    have new : ¬ demo.client.state.experimentId = some frame.experimentId := by
      rw [genuine.session]
      exact elsewhere.other
    refine ⟨genuine, 0, Nat.zero_le _, ?_, ?_⟩
    · rw [reduceSnapshot_recent, if_neg new]
      rfl
    · have other : ¬ Here demo := elsewhere.other
      rw [awaited_snapshot, if_neg other]
      omega
  | @reading n here read feeds =>
    have genuine := feeds socket member frame sends
    have same : demo.client.state.experimentId = some frame.experimentId := by
      rw [genuine.session]
      exact here
    refine ⟨genuine, n, read.inside, ?_, ?_⟩
    · rw [reduceSnapshot_recent, if_pos same, read.recent]
    · have last := read.last
      have shows_ : Here demo := here
      rw [awaited_snapshot, if_pos shows_]
      omega

theorem event_reading {demo : Demo} (steady : Steady demo) {id k : Nat} {socket : Socket}
    (found : findSocket demo.client id = some socket) (sends : socket.feed = .events k) :
    demo.client.state.experimentId = some demo.session.sessionId ∧
      ∃ n, ReadTo demo.session.log demo.client n := by
  obtain ⟨_, _, attached⟩ := standing_of_socket steady.standing found
  cases attached with
  | blank elsewhere feeds =>
    rcases feeds socket (findSocket_some found).1 with opening | ⟨other, same, _⟩
    · rw [opening] at sends
      cases sends
    · rw [same] at sends
      cases sends
  | @reading n here read => exact ⟨here, n, read⟩

theorem attached_genuine {s : LiveRuntimeSession} {client : RuntimeStream}
    (attached : Attached s client) : ∀ socket ∈ client.sockets, ∀ frame,
      socket.feed = .snapshot frame → Genuine s frame := by
  cases attached with
  | blank elsewhere feeds =>
    intro socket member frame sends
    rcases feeds socket member with opening | ⟨other, same, genuine⟩
    · rw [opening] at sends
      cases sends
    · rw [same] at sends
      cases sends
      exact genuine
  | reading here read feeds => exact feeds

theorem delivers_standing {demo : Demo} (steady : Steady demo) (within : Within demo) {id : Nat}
    {socket : Socket} {frame : StreamFrame} {feed : Feed}
    (found : findSocket demo.client id = some socket)
    (next : socket.feed.next demo.session.log = some (frame, feed))
    (awaited : Awaited demo frame) :
    Standing demo.session ((demo.client.fed id feed).onmessage frame) .returned := by
  obtain ⟨attach, one, attached⟩ := standing_of_socket steady.standing found
  have later : ∀ n, feed = .events n → (demo.client.fed id feed).sockets.length =
        demo.client.sockets.length ∧
      ∀ socket ∈ (demo.client.fed id feed).sockets, ∀ frame, socket.feed = .snapshot frame →
        Genuine demo.session frame := by
    rintro n rfl
    apply @fed_sockets demo.client id _
      (fun feed => ∀ frame, feed = .snapshot frame → Genuine demo.session frame)
      (attached_genuine attached)
    intro shown sends
    cases sends
  rcases next_cases next with ⟨shown, sends, rfl, n, behind⟩ | ⟨k, event, sends, here, rfl, behind⟩
  · obtain ⟨lengths, feeds⟩ := later n behind
    obtain ⟨genuine, m, inside, recent, reads⟩ := read_before steady found sends
    have last := reads.mp awaited
    rw [onmessage_snapshot, apply_snapshot]
    refine ⟨?_, .reading (congrArg some genuine.session)
      ⟨recent, last, congrArg some last, inside⟩ feeds⟩
    exact Nat.le_trans (Nat.le_of_eq (congrArg (· + demo.client.reconnects.length) lengths)) one
  · obtain ⟨lengths, feeds⟩ := later (k + 1) behind
    obtain ⟨shows_, n, read⟩ := event_reading steady found sends
    have number := numbered_at (regular_seqs steady.regular) here
    have expected : demo.client.expectedNextSeq = some (event.seq : Int) := awaited
    have same : k = n := by
      rw [read.expected, number] at expected
      exact (Int.ofNat_inj.mp (Option.some.inj expected)).symm
    subst same
    rw [@onmessage_expected (demo.client.fed id feed) event expected, apply_event]
    have read' : (reduceEvent demo.client.state event).recentEvents =
        demo.session.log.take (k + 1) := recent_next read.recent here within
    refine ⟨?_, .reading shows_
      ⟨read', ?_, ?_, (List.getElem?_eq_some_iff.mp here).1⟩ feeds⟩
    · exact Nat.le_trans (Nat.le_of_eq (congrArg (· + demo.client.reconnects.length) lengths)) one
    · have lastSeq : (reduceEvent demo.client.state event).lastSeq = event.seq := rfl
      exact (congrArg (· + 1) lastSeq).trans (by rw [number]; rfl)
    · dsimp only
      rw [number]
      rfl

theorem snapshot_disturbed {demo : Demo} (steady : Steady demo) {id : Nat} {socket : Socket}
    {shown : SnapshotFrame} {feed : Feed} (found : findSocket demo.client id = some socket)
    (sends : socket.feed = .snapshot shown) (disturbed : ¬ Awaited demo (.snapshot shown)) :
    ¬ Recovers ⟨demo.session, (demo.client.fed id feed).onmessage (.snapshot shown)⟩ := by
  obtain ⟨attach, _, _⟩ := standing_of_socket steady.standing found
  obtain ⟨genuine, m, inside, recent, reads⟩ := read_before steady found sends
  obtain ⟨n, last, most⟩ := genuine.numbered
  have after := onmessage_snapshot (demo.client.fed id feed) shown
  rw [apply_snapshot] at after
  intro fine
  generalize (demo.client.fed id feed).onmessage (.snapshot shown) = client at after fine
  have state : client.state = reduceSnapshot demo.client.state shown := by
    rw [after]
    rfl
  have over_ : client.attach = .returned := by
    rw [after]
    exact attach
  have complete : Complete ⟨demo.session, client⟩ := by
    apply fine.complete.resolve_right
    rintro ⟨backfilling, _⟩
    unfold Backfilling at backfilling
    dsimp only at backfilling
    rw [over_] at backfilling
    cases backfilling
  have here : Here ⟨demo.session, client⟩ := by
    unfold Here
    rw [state]
    exact congrArg some genuine.session
  have read : client.state.lastSeq + 1 = n := by
    rw [state]
    exact last
  have told := (@complete_iff ⟨demo.session, client⟩ steady.regular here n most read).mp complete
  dsimp only at told
  rw [state] at told
  have lengths := congrArg List.length (recent.symm.trans told)
  rw [List.length_take_of_le inside, List.length_take_of_le most] at lengths
  apply disturbed
  apply reads.mpr
  rw [last, lengths]

theorem event_disturbed {demo : Demo} (steady : Steady demo) {id k : Nat} {socket : Socket}
    {event : Event} {feed : Feed} (found : findSocket demo.client id = some socket)
    (sends : socket.feed = .events k) (disturbed : ¬ Awaited demo (.event event schemaVersion)) :
    ¬ Recovers ⟨demo.session,
      (demo.client.fed id feed).onmessage (.event event schemaVersion)⟩ := by
  obtain ⟨shows_, n, read⟩ := event_reading steady found sends
  have differs : (event.seq : Int) ≠ n := by
    intro same
    apply disturbed
    rw [awaited_event, read.expected, same]
  have busy := List.length_pos_of_mem (findSocket_some found).1
  intro fine
  have two := fine.one
  rw [@onmessage_desync (demo.client.fed id feed) event n read.expected differs] at two
  unfold OneConnection at two
  unfold RuntimeStream.scheduleReconnect RuntimeStream.close RuntimeStream.fed at two
  simp only [List.length_map, List.length_append, List.length_singleton] at two
  omega

theorem delivers_disturbed {demo : Demo} (steady : Steady demo) {id : Nat} {socket : Socket}
    {frame : StreamFrame} {feed : Feed} (found : findSocket demo.client id = some socket)
    (next : socket.feed.next demo.session.log = some (frame, feed))
    (disturbed : ¬ Awaited demo frame) :
    ¬ Recovers ⟨demo.session, (demo.client.fed id feed).onmessage frame⟩ := by
  rcases next_cases next with ⟨shown, sends, rfl, _⟩ | ⟨k, event, sends, _, rfl, _⟩
  · exact snapshot_disturbed steady found sends disturbed
  · exact event_disturbed steady found sends disturbed

theorem since_given {demo : Demo} (regular : Regular demo.session) (within : Within demo) :
    demo.session.bus.since (-1) = some demo.session.log := by
  have answer := since_start regular.sound
  rw [if_pos (within_ring within)] at answer
  exact answer

theorem steady_returned {s : LiveRuntimeSession} {client : RuntimeStream} (regular : Regular s)
    (over_ : client.attach = .returned) (standing : Standing s client .returned) :
    Steady ⟨s, client⟩ := by
  refine ⟨regular, ?_⟩
  dsimp only
  rw [over_]
  exact standing

/- An undisturbed step leaves the client where it has lost nothing for good, any other does not. -/
theorem step_meets {demo demo' : Demo} {action : Action} (steady : Steady demo)
    (within : Within demo') (stepped : demo.step action = some demo') :
    (Undisturbed demo action → Steady demo') ∧ (¬ Undisturbed demo action → ¬ Recovers demo') := by
  have ⟨regular, standing⟩ := steady
  have kept : Steady demo' → Undisturbed demo action →
      (Undisturbed demo action → Steady demo') ∧ (¬ Undisturbed demo action → ¬ Recovers demo') :=
    fun steady' calm => ⟨fun _ => steady', fun disturbed => absurd calm disturbed⟩
  cases step_cases stepped with
  | serves op =>
    obtain ⟨regular', grown⟩ := regular_step regular op
    exact kept ⟨regular', standing_grown grown standing⟩ trivial
  | answersSnapshot asked =>
    rw [asked] at standing
    exact kept ⟨regular, answersSnapshot_standing regular standing⟩ trivial
  | takesSnapshot answered =>
    rw [answered] at standing
    exact kept ⟨regular, takesSnapshot_standing standing.1 standing.2⟩ trivial
  | refusesPage asked refused =>
    rw [since_given regular within] at refused
    cases refused
  | answersPage asked given =>
    rw [asked] at standing
    obtain ⟨rfl, n, told⟩ := standing
    rw [since_given regular within] at given
    cases given
    exact kept ⟨regular, answersPage_standing told⟩ trivial
  | takesPage answered =>
    rw [answered] at standing
    obtain ⟨rfl, n, k, told, least, most, rfl⟩ := standing
    have read := takesPage_standing (regular_seqs regular) within told least most
    exact kept (steady_returned regular (afterPage_attach _ _ _) read) trivial
  | fetchFails going =>
    refine ⟨fun paid => ⟨regular, fallBack_standing standing going paid⟩, ?_⟩
    intro owed
    exact fails_disturbed steady (not_not.mp owed)
  | reconnects due =>
    obtain ⟨over_, opened⟩ := reconnects_standing standing due
    exact kept (steady_returned regular over_ opened) trivial
  | accepts found opening =>
    obtain ⟨over_, accepted⟩ := accepts_standing regular standing found opening
    exact kept (steady_returned regular over_ accepted) trivial
  | @delivers id socket frame feed found next =>
    have awaited : Undisturbed demo (.delivers id) ↔ Awaited demo frame := by
      simp [Undisturbed, HandsOver, found, next]
    rw [awaited]
    refine ⟨fun awaited => ?_, delivers_disturbed steady found next⟩
    obtain ⟨over_, _⟩ := standing_of_socket standing found
    have same := onmessage_attach (demo.client.fed id feed) frame
    exact steady_returned regular (same.trans over_)
      (delivers_standing steady within found next awaited)
  | closes found =>
    obtain ⟨over_, waits⟩ := closes_standing standing found
    exact kept (steady_returned regular over_ waits) trivial

/- Events become owed when a snapshot is taken that told of some. -/
theorem owed_step {demo demo' : Demo} {action : Action} (steady : Steady demo)
    (paid : ¬ Owed demo) (stepped : demo.step action = some demo') :
    Owed demo' ↔ action = .takesSnapshot ∧
      ∃ frame, demo.client.attach = .snapshotAnswered frame ∧ frame.lastSeq ≠ -1 := by
  cases step_cases stepped with
  | serves op => exact iff_of_false paid nofun
  | answersSnapshot asked => exact iff_of_false (fun owed => owed.1) nofun
  | @takesSnapshot frame answered =>
    constructor
    · intro owed
      exact ⟨rfl, frame, answered, owed.2⟩
    · rintro ⟨_, other, same, some_told⟩
      rw [answered] at same
      cases same
      exact ⟨trivial, some_told⟩
  | refusesPage asked refused => exact iff_of_false (fun owed => owed.1) nofun
  | answersPage asked given =>
    refine iff_of_false (fun owed => paid ⟨?_, owed.2⟩) nofun
    unfold Backfilling
    rw [asked]
    trivial
  | takesPage answered =>
    refine iff_of_false (fun owed => ?_) nofun
    have going := owed.1
    unfold Backfilling at going
    rw [afterPage_attach] at going
    exact going
  | fetchFails going => exact iff_of_false (fun owed => owed.1) nofun
  | reconnects due => exact iff_of_false paid nofun
  | accepts found opening => exact iff_of_false paid nofun
  | @delivers id socket frame feed found next =>
    refine iff_of_false (fun owed => ?_) nofun
    have going := owed.1
    unfold Backfilling at going
    rw [onmessage_attach] at going
    have over_ : (demo.client.fed id feed).attach = .returned :=
      (standing_of_socket steady.standing found).1
    rw [over_] at going
    exact going
  | closes found => exact iff_of_false paid nofun

structure Settled (demo : Demo) : Prop where
  steady : Steady demo
  paid : ¬ Owed demo

theorem settled_loses_nothing {demo : Demo} (settled : Settled demo) : LosesNothing demo :=
  (steady_loses_nothing_iff settled.steady).mpr settled.paid

theorem calm_iff {demo demo' : Demo} {action : Action} (settled : Settled demo)
    (stepped : demo.step action = some demo') :
    Calm demo action ↔ Undisturbed demo action ∧ ¬ Owed demo' := by
  rw [owed_step settled.steady settled.paid stepped]
  cases action with
  | takesSnapshot =>
    unfold Calm Undisturbed
    cases place : demo.client.attach with
    | snapshotAnswered frame => simp [Blank]
    | _ => simp [Blank]
  | fetchFails => simp [Calm, Undisturbed, settled.paid]
  | _ => simp [Calm, Undisturbed]

/-- A calm step leaves the client where it has lost nothing, and any other does not. -/
theorem calm_meets {demo demo' : Demo} {action : Action} (settled : Settled demo)
    (within : Within demo') (stepped : demo.step action = some demo') :
    (LosesNothing demo' ↔ Calm demo action) ∧ (Calm demo action → Settled demo') := by
  obtain ⟨keeps, fails⟩ := step_meets settled.steady within stepped
  have settles : Calm demo action → Settled demo' := by
    intro calm
    obtain ⟨undisturbed, paid⟩ := (calm_iff settled stepped).mp calm
    exact ⟨keeps undisturbed, paid⟩
  refine ⟨⟨?_, fun calm => settled_loses_nothing (settles calm)⟩, settles⟩
  intro fine
  have undisturbed : Undisturbed demo action := by
    by_contra disturbed
    exact fails disturbed ⟨fine.one, Or.inl fine.complete⟩
  have paid := (steady_loses_nothing_iff (keeps undisturbed)).mp fine
  exact (calm_iff settled stepped).mpr ⟨undisturbed, paid⟩

end AgentShield.Client
