/-
The steps of a trial: what is asked of the room or changed about its surroundings, what the answer
is, and what is seen to leave the room. Each step takes a millisecond after all that it does.
-/
import Parley.Report
import Parley.Trial.Clock

namespace Parley

namespace Trial

/-! ## Steps -/

/-- What a report is on. -/
inductive Topic where
  | roster
  | sessions
  | feed
  | routing
  | bridge
  | reaping
  deriving DecidableEq, Repr

/-- One step of a trial. -/
inductive Step where
  | mode (conn : ConnId) (mode : Mode)
  | dispatch (conn : ConnId) (raw : Text) (stage : Option Stage)
  | register (id : SessionId) (name : Text) (conn : ConnId) (mark : Option Nat)
  | delete (id : SessionId)
  | lookup (id : SessionId)
  | findByName (name : Text)
  | findByConnection (conn : ConnId)
  | nameOf (id : SessionId)
  | containsId (id : SessionId)
  | containsName (name : Text)
  | reserve (name : Text)
  | release (name : Text)
  | touch (id : SessionId) (mark : Nat)
  | liveness (id : SessionId)
  | snapshot
  | clear
  | size
  | ask (request : Text)
  | broadcast (frame : Text) (sender : Option SessionId)
  | notice (text : Text) (target : Option SessionId)
  | sendPrivate (sender target payload : Text)
  | notifyInvalid (conn : ConnId) (target : Text)
  | disconnect (id : SessionId)
  | connectionLost (conn : ConnId)
  | disconnectAll
  | setDirectory (names : List Text) (keep : Bool)
  | publish (line : Text)
  | publishIncoming (raw : Text)
  | relayPublish (line : Text)
  | subscribe (manner : Manner)
  | unsubscribe (observer : Nat)
  | openGate (observer : Nat) (permits : Nat)
  | stopFeed
  | feedState
  | attach (guest : SessionId)
  | detach (guest : SessionId)
  | guestText (guest : SessionId) (raw : Text)
  | forward (line : Text)
  | deliver (name frame : Text)
  | nickname (guest : SessionId)
  | guestCount
  | drain (guest : SessionId)
  | dropReader (guest : SessionId)
  | reap (now : Nat)
  | startPatrol (interval : Nat)
  | stopPatrol
  | advance (millis : Nat)
  | tally
  | report (topic : Topic)

/-- The answer to a step. -/
inductive Answer where
  | nothing
  | flag (b : Bool)
  | number (n : Nat)
  | text (t : Option Text)
  | mark (m : Option Nat)
  | stage (s : Stage)
  | session (s : Option Session)
  | sessions (s : List Session)
  | size (n : Nat) (empty : Bool)
  | reach (r : Reach)
  | action (a : Room.GuestAction)
  | feedState (subscribers : Nat) (running : Bool)
  | mailbox (m : Option (List Text × Bool))
  | tally (t : Tally)
  | failed (e : ServerError)

/-! ## What is asked of the roster -/

/-- Puts another roster into the room. -/
def withRoster (t : Trial) (roster : Roster) : Trial := { t with room := { t.room with roster } }

/-- Changes the roster, unless the change is refused. -/
def changeRoster (t : Trial) (changed : Option Roster) : Trial × Answer :=
  match changed with
  | some roster => (t.withRoster roster, .flag true)
  | none => (t, .flag false)

/-- A question to the roster. -/
def askRoster (t : Trial) : Step → Option Answer
  | .lookup id => some (.session (t.room.roster.lookup? id))
  | .findByName name => some (.text (t.room.roster.holder? name))
  | .findByConnection conn => some (.text ((t.room.roster.bound? conn).map (·.id)))
  | .nameOf id => some (.text (t.room.roster.nameOf? id))
  | .containsId id => some (.flag (t.room.roster.contains id))
  | .containsName name => some (.flag (t.room.roster.isActive name))
  | .liveness id => some (.mark (t.room.roster.markOf? id))
  | .snapshot => some (.sessions t.room.roster.sessions)
  | .size => some (.size t.room.roster.size (t.room.roster.size = 0))
  | .ask request => some (.text (t.room.roster.answer? request))
  | _ => none

/-- A report on some part of the room. -/
def report (t : Trial) : Topic → Text
  | .roster => t.room.roster.report
  | .sessions => Text.brackets (t.room.roster.sessions.map Session.report)
  | .feed => t.room.feed.report
  | .routing => Report.routing t.room.roster.size (.ofMillis t.writeTimeout)
  | .bridge => Report.bridge t.room.bridge.size t.room.bridge.capacity
  | .reaping => Report.reaping (.ofMillis 1500) (.ofMillis t.threshold)

/-! ## What is done in the room -/

/-- Publishes a line, or says why not. -/
def publish (t : Trial) (line : Text) : Trial × Answer :=
  match t.room.publish? line with
  | some room => ({ t with room }, .nothing)
  | none => (t, .failed .feedStopped)

/-- Does something that may wait for a stalled write, and then publishes the line it leaves. -/
def whole {α : Type} (t : Trial) (act : Room → α × Option Text × Room) : Trial × α :=
  let before := t.room.log.length
  let (result, line, room) := act t.room
  let t := ({ t with room } : Trial).settle before
  ({ t with room := t.room.publishLeft line }, result)

/-- Goes on with a sweep to its end, waiting for each write that stalls. -/
def sweepAll : Nat → Trial → Sweep → Trial × Nat
  | 0, t, w => (t, w.removed)
  | n + 1, t, w =>
    if w.isOver then (t, w.removed)
    else
      let before := t.room.log.length
      let (room, w) := w.step t.room
      sweepAll n (({ t with room } : Trial).settle before) w

/-- The stage that a connection was left at. -/
def stageOf (t : Trial) (conn : ConnId) : Stage :=
  ((t.stages.find? (·.1 = conn)).map (·.2)).getD .awaitingRegister

/-- Dispatches a frame from a connection, and remembers where that leaves the connection. -/
def dispatch (t : Trial) (conn : ConnId) (raw : Text) (stage : Stage) : Trial × Answer :=
  let (t, stage) := t.whole fun room =>
    let (handled, room) := room.handle conn stage raw t.wallClock
    (handled.stage, handled.line, room)
  ({ t with stages := (conn, stage) :: t.stages.filter (·.1 ≠ conn) }, .stage stage)

/-- What a step that writes or publishes does. -/
def speak (t : Trial) : Step → Option (Trial × Answer)
  | .dispatch conn raw stage => some (t.dispatch conn raw (stage.getD (t.stageOf conn)))
  | .broadcast frame sender => some (t.whole fun room =>
      let (reach, room) := room.broadcast frame sender
      (.reach reach, none, room))
  | .notice text none => some (t.whole fun room =>
      let (reach, room) := room.announce text
      (.reach reach, none, room))
  | .notice text (some target) => some (t.whole fun room =>
      match room.tell target text with
      | (.ok reach, room) => (.reach reach, none, room)
      | (.error e, room) => (.failed e, none, room))
  | .sendPrivate sender target payload => some (t.whole fun room =>
      match room.sendPrivate sender target payload with
      | (.delivered, room) => (.flag true, none, room)
      | (.nobody, room) => (.flag false, none, room)
      | (.failed e, room) => (.failed e, none, room))
  | .notifyInvalid conn target => some (t.whole fun room =>
      (.nothing, none, room.notifyInvalid conn target))
  | .disconnectAll => some (t.whole fun room =>
      let (count, room) := room.disconnectAll
      (.number count, none, room))
  | .guestText guest raw => some (t.whole fun room =>
      let (action, line, room) := room.guestHandle guest raw
      (.action action, line, room))
  | .publish line => some (t.publish line)
  | .publishIncoming raw => some <|
      match Wire.Message.parse raw with
      | .ok (.incoming id text) => t.publish (Wire.displayLine id text)
      | .ok other => (t, .failed (.protocol (.malformed other.kind .incoming)))
      | .error e => (t, .failed (.protocol e))
  | .relayPublish line => some ({ t with room := t.room.publish line }, .nothing)
  | _ => none

/-- What a step that changes who takes part does. -/
def change (t : Trial) : Step → Option (Trial × Answer)
  | .register id name conn mark =>
    some (t.changeRoster (t.room.roster.register? id name conn (mark.getD t.wallClock)))
  | .delete id => some <|
      match t.room.roster.remove? id with
      | some (session, roster) => (t.withRoster roster, .session (some session))
      | none => (t, .session none)
  | .reserve name => some (t.changeRoster (t.room.roster.reserve? name))
  | .release name => some (t.changeRoster (t.room.roster.release? name))
  | .touch id mark => some (t.changeRoster (t.room.roster.touch? id mark))
  | .clear =>
    let (sessions, roster) := t.room.roster.clear
    some (t.withRoster roster, .sessions sessions)
  | .disconnect id => some <|
      match t.room.disconnect? id with
      | some (session, room) => ({ t with room }, .session (some session))
      | none => (t, .failed (.sessionNotFound id))
  | .connectionLost conn => some <|
      match t.room.connectionLost? conn with
      | some (session, room) => ({ t with room }, .session (some session))
      | none => (t, .session none)
  | _ => none

/-- What a step about guests does. -/
def host (t : Trial) : Step → Option (Trial × Answer)
  | .attach guest => some ({ t with room := t.room.attach guest }, .nothing)
  | .detach guest => some ({ t with room := t.room.detach guest }, .nothing)
  | .forward line =>
    let (count, room) := t.room.forward line
    some ({ t with room }, .number count)
  | .deliver name frame =>
    let (taken, room) := t.room.deliver name frame
    some ({ t with room }, .flag taken)
  | .nickname guest => some (t, .text (t.room.bridge.nicknameOf? guest))
  | .guestCount => some (t, .number t.room.bridge.size)
  | .drain guest => some <|
      match t.room.bridge.read? guest with
      | some (frames, more, bridge) =>
        ({ t with room := { t.room with bridge } }, .mailbox (some (frames, more)))
      | none => (t, .mailbox none)
  | .dropReader guest => some <|
      match t.room.bridge.stopReading? guest with
      | some bridge => ({ t with room := { t.room with bridge } }, .flag true)
      | none => (t, .flag false)
  | _ => none

/-- Starts a patrol; none that was started before can be ended any more. -/
def startPatrol (t : Trial) (interval : Nat) : Trial :=
  { t with
    patrols := t.patrols.map (fun p => { p with latest := false }) ++
      [{ interval, due := t.clock }] }

/-- Ends the patrol that was started last, once the sweep that is on its way is over. -/
def stopPatrol (t : Trial) : Trial :=
  { t with patrols := t.patrols.filterMap fun p =>
      match p.latest, p.wait with
      | true, .writes .. => some { p with stopped := true }
      | true, _ => none
      | false, _ => some p }

/-- What a step about the surroundings of the room does. -/
def arrange (t : Trial) : Step → Trial × Answer
  | .mode conn mode =>
    let link := { t.room.links conn with react := mode.react }
    ({ t with room := { t.room with links := t.room.links.set conn link } }, .nothing)
  | .setDirectory names keep =>
    if t.room.directory = .unset then
      let directory := if keep then .standIn names else .gone
      ({ t with room := { t.room with directory } }, .flag true)
    else (t, .flag false)
  | .subscribe manner =>
    let (id, feed) := t.room.feed.subscribe
    let number := t.observers.length + 1
    ({ t with
      room := { t.room with feed }
      observers := t.observers ++ [{ number, id, manner }] }, .number number)
  | .unsubscribe observer =>
    match (t.numbered? observer).bind fun o => t.room.feed.unsubscribe? o.id with
    | some feed => ({ t with room := { t.room with feed } }, .flag true)
    | none => (t, .flag false)
  | .openGate observer permits =>
    (t.updateObserver observer fun o => { o with permits := o.permits + permits }, .nothing)
  | .stopFeed => ({ t with room := { t.room with feed := t.room.feed.stop } }, .nothing)
  | .feedState => (t, .feedState t.room.feed.subscribers.length t.room.feed.isRunning)
  | .reap now =>
    let w := Sweep.start t.room now t.threshold
    let (t, count) := sweepAll (w.steps + 1) t w
    (t, .number count)
  | .startPatrol interval => (t.startPatrol interval, .nothing)
  | .stopPatrol => (t.stopPatrol, .nothing)
  | .advance millis => (t.pass millis, .nothing)
  | .tally => (t, .tally t.tally)
  | .report topic => (t, .text (some (t.report topic)))
  | _ => (t, .nothing)

/-- What a step does, before the time that it takes. -/
def act (t : Trial) (s : Step) : Trial × Answer :=
  match t.askRoster s with
  | some answer => (t, answer)
  | none => (((t.change s).or (t.speak s)).or (t.host s)).getD (t.arrange s)

/-! ## What is seen -/

/-- The answer to a step, who takes part after it, and what has left the room: the frames that
links took, how often links were closed, the lines that observers were handed by their numbers, the
guests who were ended, and what a stand-in directory was told. -/
structure Seen where
  answer : Answer
  sessions : List Session
  names : List Text
  frames : List (ConnId × Text)
  closed : List ConnId
  lines : List (Nat × Text)
  ended : List SessionId
  told : List (Text × Text)

/-- What is seen of a step. -/
def see (t : Trial) (answer : Answer) : Seen where
  answer
  sessions := t.room.roster.sessions
  names := t.room.roster.activeNames
  frames := t.room.log.filterMap fun
    | .wrote conn frame .accepted => some (conn, frame)
    | _ => none
  closed := t.room.log.filterMap fun
    | .closed conn => some conn
    | _ => none
  lines := t.room.log.filterMap fun
    | .handed id line => (t.observer? id).map fun o => (o.number, line)
    | _ => none
  ended := (t.room.log.filterMap fun
    | .ended guest => some guest
    | _ => none).mergeSort Text.atMost
  told := t.room.log.filterMap fun
    | .told name frame => some (name, frame)
    | _ => none

/-- One whole step. -/
def step (t : Trial) (s : Step) : Seen × Trial :=
  let (t, answer) := ({ t with room := { t.room with log := [] } } : Trial).act s
  let t := t.pass 1
  (t.see answer, t)

/-- Several steps, one after the other. -/
def run (t : Trial) : List Step → List Seen × Trial
  | [] => ([], t)
  | s :: rest =>
    let (seen, t) := t.step s
    let (more, t) := t.run rest
    (seen :: more, t)

/-! ## Setting up -/

/-- A trial that begins: the capacity of the bridge's mailboxes, if there is a bridge, and whether
the bridge is subscribed to the feed; whether an observer is; and the times that count. -/
structure Setup where
  bridge : Option Nat := none
  bridgeSubscribed : Bool := true
  observed : Bool := true
  threshold : Nat := 30000
  writeTimeout : Nat := 1000
  wallClock : Nat

/-- The trial that is set up. -/
def Setup.begin (s : Setup) : Trial :=
  let t : Trial :=
    { threshold := s.threshold, writeTimeout := s.writeTimeout, wallClock := s.wallClock }
  let t := if s.observed then (t.arrange (.subscribe .taking)).1 else t
  match s.bridge with
  | none => t
  | some capacity =>
    let room := { t.room with bridge := .new capacity, directory := .guests }
    if s.bridgeSubscribed then
      let (id, feed) := room.feed.subscribe
      { t with room := { room with feed, bridgeSubscription := some id } }
    else { t with room }

end Trial
end Parley
