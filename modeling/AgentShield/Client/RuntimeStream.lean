import AgentShield.Client.Reducer
import AgentShield.Events.Stream
import AgentShield.Lib.History
import AgentShield.Runtime.SessionEffects

/-!
The stream of the demo (`lib/runtime/useRuntimeStream.ts`) beside the session it attaches to:
a snapshot and a page of events over HTTP, and then sockets, any number of which can fail.
-/
namespace AgentShield.Client
open Schema Events Keyed Coop Session LiveRuntimeSession

/- Where `attach` is: at one of its two fetches, asked or answered, or over. -/
inductive AttachPlace where
  | snapshotRequested
  | snapshotAnswered (frame : SnapshotFrame)
  | pageRequested (lastSeq : Int)
  | pageAnswered (lastSeq : Int) (events : List Event)
  | returned

/- What the session sends over a socket: nothing before it has accepted, perhaps a snapshot, and
   then the events from a number on, each of them once it is published. -/
inductive Feed where
  | opening (sinceSeq : Option Int)
  | snapshot (frame : SnapshotFrame)
  | events (next : Nat)

/- A socket whose `onclose` has not run; it hands over no message after `close()`. -/
structure Socket where
  id : Nat
  feed : Feed
  closing : Bool

structure RuntimeStream where
  state : GraphState
  expectedNextSeq : Option Int
  attach : AttachPlace
  sockets : List Socket
  /- The variable `socket`: the one that was opened last. -/
  socket : Option Nat
  /- Each `setTimeout` that has not run, with its `sinceSeq`. -/
  reconnects : List (Option Int)
  opened : Nat

namespace RuntimeStream

def new (state : GraphState) : RuntimeStream :=
  { state
    expectedNextSeq := none
    attach := .snapshotRequested
    sockets := []
    socket := none
    reconnects := []
    opened := 0 }

def expectedAfter : StreamFrame → Int
  | .snapshot frame => frame.lastSeq + 1
  | .event event _ => event.seq + 1

def apply (self : RuntimeStream) (frame : StreamFrame) : RuntimeStream × Bool :=
  match reduce self.state frame with
  | .ok state => ({ self with state, expectedNextSeq := some (expectedAfter frame) }, true)
  | .error _ => (self, false)

def scheduleReconnect (self : RuntimeStream) (sinceSeq : Option Int) : RuntimeStream :=
  { self with reconnects := self.reconnects ++ [sinceSeq] }

def connect (self : RuntimeStream) (sinceSeq : Option Int) : RuntimeStream :=
  { self with
    sockets := self.sockets ++ [⟨self.opened, .opening sinceSeq, false⟩]
    socket := some self.opened
    opened := self.opened + 1 }

def close (self : RuntimeStream) : RuntimeStream :=
  { self with
    sockets := self.sockets.map fun other =>
      if some other.id = self.socket then { other with closing := true } else other }

def onmessage (self : RuntimeStream) (frame : StreamFrame) : RuntimeStream :=
  let handled := fun _ : Unit =>
    let (self, applied) := self.apply frame
    if applied then self else self.close
  match frame, self.expectedNextSeq with
  | .event event _, some expected =>
    if (event.seq : Int) ≠ expected then self.close.scheduleReconnect none else handled ()
  | _, _ => handled ()

def onclose (self : RuntimeStream) (id : Nat) : RuntimeStream :=
  { self with sockets := self.sockets.filter fun other => other.id ≠ id }.scheduleReconnect
    (self.expectedNextSeq.map fun expected => expected - 1)

def applyAll (self : RuntimeStream) : List Event → RuntimeStream × Bool
  | [] => (self, true)
  | event :: rest =>
    let (self, applied) := self.apply (.event event schemaVersion)
    if applied then self.applyAll rest else (self, false)

def afterSnapshot (self : RuntimeStream) (frame : SnapshotFrame) : RuntimeStream :=
  let (self, applied) := self.apply (.snapshot frame)
  { self with attach := if applied then .pageRequested frame.lastSeq else .returned }

def afterPage (self : RuntimeStream) (lastSeq : Int) (events : List Event) : RuntimeStream :=
  let (self, applied) := self.applyAll events
  let self := { self with attach := .returned }
  if applied then self.connect (some lastSeq) else self

def fallBack (self : RuntimeStream) : RuntimeStream :=
  { self with attach := .returned }.connect none

def fed (self : RuntimeStream) (id : Nat) (feed : Feed) : RuntimeStream :=
  { self with
    sockets := self.sockets.map fun other => if other.id = id then { other with feed } else other }

end RuntimeStream

structure Demo where
  session : LiveRuntimeSession
  client : RuntimeStream

inductive Action where
  | serves (op : Operation)
  | answersSnapshot
  | takesSnapshot
  | answersPage
  | takesPage
  | fetchFails
  | reconnects (timer : Nat)
  | accepts (id : Nat)
  | delivers (id : Nat)
  | closes (id : Nat)

def feedOf (s : LiveRuntimeSession) : Option Int → Feed
  | none => .snapshot (Session.snapshot s)
  | some seq => match s.bus.since seq with
    | none => .snapshot (Session.snapshot s)
    | some _ => .events (seq + 1).toNat

def Feed.next (log : List Event) : Feed → Option (StreamFrame × Feed)
  | .opening _ => none
  | .snapshot frame => some (.snapshot frame, .events (frame.lastSeq + 1).toNat)
  | .events next => log[next]?.map fun event => (.event event schemaVersion, .events (next + 1))

def findSocket (self : RuntimeStream) (id : Nat) : Option Socket :=
  self.sockets.find? fun other => other.id = id

/-- One action, if it is possible now. -/
def Demo.step (self : Demo) : Action → Option Demo
  | .serves op => some { self with session := exec (perform op) self.session }
  | .answersSnapshot => match self.client.attach with
    | .snapshotRequested => some { self with
        client := { self.client with
          attach := .snapshotAnswered (Session.snapshot self.session) } }
    | _ => none
  | .takesSnapshot => match self.client.attach with
    | .snapshotAnswered frame => some { self with client := self.client.afterSnapshot frame }
    | _ => none
  | .answersPage => match self.client.attach with
    | .pageRequested lastSeq => match self.session.bus.since (-1) with
      | none => some { self with client := self.client.fallBack }
      | some events => some { self with
          client := { self.client with attach := .pageAnswered lastSeq events } }
    | _ => none
  | .takesPage => match self.client.attach with
    | .pageAnswered lastSeq events =>
      some { self with client := self.client.afterPage lastSeq events }
    | _ => none
  | .fetchFails => match self.client.attach with
    | .returned => none
    | _ => some { self with client := self.client.fallBack }
  | .reconnects timer => match self.client.reconnects[timer]? with
    | none => none
    | some sinceSeq => some { self with
        client := { self.client with
          reconnects := self.client.reconnects.eraseIdx timer }.connect sinceSeq }
  | .accepts id => match findSocket self.client id with
    | some ⟨_, .opening sinceSeq, _⟩ => some { self with
        client := self.client.fed id (feedOf self.session sinceSeq) }
    | _ => none
  | .delivers id => match findSocket self.client id with
    | none => none
    | some socket =>
      if socket.closing then none
      else match socket.feed.next self.session.log with
        | none => none
        | some (frame, feed) => some { self with
            client := (self.client.fed id feed).onmessage frame }
  | .closes id => match findSocket self.client id with
    | none => none
    | some _ => some { self with client := self.client.onclose id }

inductive Stepped (demo : Demo) : Action → Demo → Prop where
  | serves (op : Operation) :
      Stepped demo (.serves op) { demo with session := exec (perform op) demo.session }
  | answersSnapshot (asked : demo.client.attach = .snapshotRequested) :
      Stepped demo .answersSnapshot { demo with
        client := { demo.client with attach := .snapshotAnswered (Session.snapshot demo.session) } }
  | takesSnapshot {frame : SnapshotFrame}
      (answered : demo.client.attach = .snapshotAnswered frame) :
      Stepped demo .takesSnapshot { demo with client := demo.client.afterSnapshot frame }
  | refusesPage {lastSeq : Int} (asked : demo.client.attach = .pageRequested lastSeq)
      (refused : demo.session.bus.since (-1) = none) :
      Stepped demo .answersPage { demo with client := demo.client.fallBack }
  | answersPage {lastSeq : Int} {events : List Event}
      (asked : demo.client.attach = .pageRequested lastSeq)
      (given : demo.session.bus.since (-1) = some events) :
      Stepped demo .answersPage { demo with
        client := { demo.client with attach := .pageAnswered lastSeq events } }
  | takesPage {lastSeq : Int} {events : List Event}
      (answered : demo.client.attach = .pageAnswered lastSeq events) :
      Stepped demo .takesPage { demo with client := demo.client.afterPage lastSeq events }
  | fetchFails (going : demo.client.attach ≠ .returned) :
      Stepped demo .fetchFails { demo with client := demo.client.fallBack }
  | reconnects {timer : Nat} {sinceSeq : Option Int}
      (due : demo.client.reconnects[timer]? = some sinceSeq) :
      Stepped demo (.reconnects timer) { demo with
        client := { demo.client with
          reconnects := demo.client.reconnects.eraseIdx timer }.connect sinceSeq }
  | accepts {id : Nat} {socket : Socket} {sinceSeq : Option Int}
      (found : findSocket demo.client id = some socket)
      (opening : socket.feed = .opening sinceSeq) :
      Stepped demo (.accepts id) { demo with
        client := demo.client.fed id (feedOf demo.session sinceSeq) }
  | delivers {id : Nat} {socket : Socket} {frame : StreamFrame} {feed : Feed}
      (found : findSocket demo.client id = some socket)
      (next : socket.feed.next demo.session.log = some (frame, feed)) :
      Stepped demo (.delivers id) { demo with client := (demo.client.fed id feed).onmessage frame }
  | closes {id : Nat} {socket : Socket} (found : findSocket demo.client id = some socket) :
      Stepped demo (.closes id) { demo with client := demo.client.onclose id }

theorem step_cases {demo demo' : Demo} {action : Action}
    (stepped : demo.step action = some demo') : Stepped demo action demo' := by
  cases action with
  | serves op =>
    cases stepped
    exact .serves op
  | answersSnapshot =>
    simp only [Demo.step] at stepped
    split at stepped
    · rename_i asked
      cases stepped
      exact .answersSnapshot asked
    · cases stepped
  | takesSnapshot =>
    simp only [Demo.step] at stepped
    split at stepped
    · rename_i frame answered
      cases stepped
      exact .takesSnapshot answered
    · cases stepped
  | answersPage =>
    simp only [Demo.step] at stepped
    split at stepped
    · rename_i lastSeq asked
      split at stepped
      · rename_i refused
        cases stepped
        exact .refusesPage asked refused
      · rename_i events given
        cases stepped
        exact .answersPage asked given
    · cases stepped
  | takesPage =>
    simp only [Demo.step] at stepped
    split at stepped
    · rename_i lastSeq events answered
      cases stepped
      exact .takesPage answered
    · cases stepped
  | fetchFails =>
    simp only [Demo.step] at stepped
    split at stepped
    · cases stepped
    · rename_i going
      cases stepped
      exact .fetchFails going
  | reconnects timer =>
    simp only [Demo.step] at stepped
    split at stepped
    · cases stepped
    · rename_i sinceSeq due
      cases stepped
      exact .reconnects due
  | accepts id =>
    simp only [Demo.step] at stepped
    split at stepped
    · rename_i sinceSeq closing found
      cases stepped
      exact .accepts found rfl
    · cases stepped
  | delivers id =>
    simp only [Demo.step] at stepped
    split at stepped
    · cases stepped
    · rename_i socket found
      split at stepped
      · cases stepped
      · split at stepped
        · cases stepped
        · rename_i frame feed next
          cases stepped
          exact .delivers found next
  | closes id =>
    simp only [Demo.step] at stepped
    split at stepped
    · cases stepped
    · rename_i socket found
      cases stepped
      exact .closes found

structure Regular (s : LiveRuntimeSession) : Prop where
  next : s.emitter.nextSeq = s.log.length
  sound : s.bus.Sound

theorem regular_seqs {s : LiveRuntimeSession} (regular : Regular s) :
    s.log.map Event.seq = List.range s.log.length := regular.sound.seqs

structure Grown (s s' : LiveRuntimeSession) : Prop where
  session : s'.sessionId = s.sessionId
  log : ∃ later, s'.log = s.log ++ later

theorem new_regular (sessionId : Uuid) (objective : String) :
    Regular (LiveRuntimeSession.new sessionId objective) :=
  ⟨rfl, new_sound⟩

theorem regular_step {s : LiveRuntimeSession} (regular : Regular s) (op : Operation) :
    Regular (exec (perform op) s) ∧ Grown s (exec (perform op) s) := by
  obtain ⟨body, drafts, effect, ended⟩ := perform_effect op s
  obtain ⟨bus, emitter⟩ := effect_bus effect
  have next : body.emitter.nextSeq = body.bus.published.length := by
    rw [bus, emitter]
    exact regular.next
  rw [ended]
  constructor
  · refine ⟨emit_next next drafts, publish_sound ?_ (emit_seqs next drafts)⟩
    rw [bus]
    exact regular.sound
  · exact ⟨by cases effect <;> rfl, ⟨_, effect_log effect⟩⟩

theorem run_regular (sessionId : Uuid) (objective : String) (ops : List Operation) :
    Regular (serial perform (LiveRuntimeSession.new sessionId objective) ops) :=
  serial_invariant (new_regular sessionId objective)
    (fun op _ regular => (regular_step regular op).1) ops

structure Genuine (s : LiveRuntimeSession) (frame : SnapshotFrame) : Prop where
  session : frame.experimentId = s.sessionId
  numbered : ∃ n : Nat, frame.lastSeq + 1 = n ∧ n ≤ s.log.length

theorem snapshot_genuine {s : LiveRuntimeSession} (regular : Regular s) :
    Genuine s (Session.snapshot s) := by
  refine ⟨rfl, s.log.length, ?_, Nat.le_refl _⟩
  have last : (Session.snapshot s).lastSeq = (s.emitter.nextSeq : Int) - 1 := rfl
  rw [last, regular.next]
  omega

theorem genuine_grown {s s' : LiveRuntimeSession} (grown : Grown s s') {frame : SnapshotFrame}
    (genuine : Genuine s frame) : Genuine s' frame := by
  obtain ⟨later, log⟩ := grown.log
  obtain ⟨n, last, inside⟩ := genuine.numbered
  refine ⟨genuine.session.trans grown.session.symm, n, last, ?_⟩
  rw [log, List.length_append]
  exact Nat.le_add_right_of_le inside

theorem take_of_numbered {log : List Event} (seqs : log.map Event.seq = List.range log.length)
    {n : Nat} (inside : n ≤ log.length) {lastSeq : Int} (last : lastSeq + 1 = n) :
    (log.filter fun event => (event.seq : Int) ≤ lastSeq) = log.take n := by
  have whole := List.take_append_drop n log
  have place : (log.take n).length = n := List.length_take_of_le inside
  rw [← whole] at seqs
  obtain ⟨before, behind⟩ := History.numbered_apart seqs
  rw [place] at before behind
  conv_lhs => rw [← whole]
  rw [List.filter_append, List.filter_eq_self.mpr, List.filter_eq_nil_iff.mpr, List.append_nil]
  · intro event member
    have late := behind event member
    rw [decide_eq_true_eq]
    omega
  · intro event member
    have early := before event member
    rw [decide_eq_true_eq]
    omega

def clientFrame : StreamHandler.Frame → StreamFrame
  | .snapshot frame => .snapshot frame
  | .event event => .event event schemaVersion

def Feed.frames (log : List Event) : Nat → Feed → List StreamFrame
  | 0, _ => []
  | count + 1, feed => match feed.next log with
    | none => []
    | some (frame, feed) => frame :: Feed.frames log count feed

theorem frames_events (log : List Event) (count next : Nat) :
    Feed.frames log count (.events next) =
      ((log.drop next).take count).map fun event => .event event schemaVersion := by
  induction count generalizing next with
  | zero => rw [List.take_zero, List.map_nil, Feed.frames]
  | succ count ih =>
    rw [Feed.frames, Feed.next]
    cases here : log[next]? with
    | none =>
      rw [List.drop_eq_nil_of_le (List.getElem?_eq_none_iff.mp here)]
      rfl
    | some event =>
      obtain ⟨inside, rfl⟩ := List.getElem?_eq_some_iff.mp here
      rw [Option.map_some, List.drop_eq_getElem_cons inside, List.take_succ_cons, List.map_cons]
      dsimp only
      rw [ih]

theorem frames_after {log : List Event} (seqs : log.map Event.seq = List.range log.length)
    (seq : Int) (count : Nat) : Feed.frames log count (.events (seq + 1).toNat) =
      ((StreamHandler.eventFrames (StreamHandler.after log seq)).map clientFrame).take count := by
  have first : log.map Event.seq = List.range' 0 log.length := by
    rw [seqs, List.range_eq_range']
  have after := filter_after log 0 first seq
  rw [Int.natCast_zero, Int.sub_zero] at after
  unfold StreamHandler.eventFrames StreamHandler.after
  rw [frames_events, after, List.map_map, List.map_take]
  rfl

/-- Whenever the session accepted a socket, what it sends by now is the whole stream of the
    handler, from the first frame on. -/
theorem feed_follows_stream (s : LiveRuntimeSession) {s' : LiveRuntimeSession}
    (regular : Regular s') (sinceSeq : Option Int) (count : Nat) :
    ∃ frames, StreamHandler.Whole (· = Session.snapshot s) sinceSeq s'.log frames ∧
      Feed.frames s'.log count (feedOf s sinceSeq) = (frames.map clientFrame).take count := by
  have seqs := regular_seqs regular
  have behind : Feed.frames s'.log count (.snapshot (Session.snapshot s)) =
      ((StreamHandler.Frame.snapshot (Session.snapshot s) :: StreamHandler.eventFrames
        (StreamHandler.after s'.log (Session.snapshot s).lastSeq)).map clientFrame).take count := by
    cases count with
    | zero => rfl
    | succ count =>
      rw [Feed.frames, Feed.next, List.map_cons, List.take_succ_cons]
      exact congrArg _ (frames_after seqs _ count)
  cases sinceSeq with
  | none => exact ⟨_, Or.inr ⟨_, rfl, rfl⟩, behind⟩
  | some seq =>
    unfold feedOf
    dsimp only
    split
    · exact ⟨_, Or.inr ⟨_, rfl, rfl⟩, behind⟩
    · exact ⟨_, Or.inl ⟨seq, rfl, rfl⟩, frames_after seqs seq count⟩

end AgentShield.Client
