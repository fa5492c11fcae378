/-
A server on trial: callers that send bytes to it and visitors to its bridge, each known by a name,
and what they get to see of it. After each step the server is left alone until nothing moves. The
id of a visitor is its own to know; in what is sent and seen, a dollar sign and the visitor's name
stand for it.
-/
import Parley.Net.Network
import Parley.Room.Delivery
import Parley.Room.GuestFrames
import Parley.Server
import Parley.Text.Replace

namespace Parley.Trial

/-! ## Who takes part -/

/-- A participant on a byte stream: how far the server has read it, whether it still sends, and
whether it still reads. -/
structure Caller where
  name : Text
  conn : ConnId
  decoder : Wire.Decoder
  buffer : List UInt8 := []
  sending : Bool := true
  reading : Bool := true

/-- A participant on the bridge, and whether it is still there. -/
structure Visitor where
  name : Text
  id : SessionId
  present : Bool := true

/-- What is sent: a text, or bytes as they are. -/
inductive Payload where
  | text (t : Text)
  | bytes (b : List UInt8)

/-- A connection, by its number or by its caller. -/
inductive Who where
  | conn (c : ConnId)
  | caller (name : Text)

/-- How a caller leaves: it ends what it sends, hangs up, or breaks the connection off. -/
inductive Leaving where
  | finish
  | hangUp
  | reset

/-- One step of a trial. -/
inductive ServerStep where
  | connect (name : Text)
  | send (name : Text) (payload : Payload)
  | leave (name : Text) (how : Leaving)
  | query (payload : Payload)
  | visit (name : Text)
  | write (name : Text) (text : Text)
  | writeBinary (name : Text)
  | depart (name : Text)
  | order (who : Who) (frame : Text)
  | remove (who : Who)
  | info (who : Who)
  | connections
  | notice (text : Text) (target : Option SessionId)
  | publish (line : Text)
  | reserve (name : Text)
  | release (name : Text)
  | disconnectAll
  | tally
  | status
  | start
  | shutdown

/-- A server's state at a glance. -/
structure Status where
  running : Bool
  openConnections : Nat
  sessions : Nat
  total : Nat
  bridge : Bool
  guests : Nat
  subscribers : Nat
  delivering : Bool
  connections : Text

/-- What is known of a connection. -/
structure ConnectionInfo where
  conn : ConnId
  stage : Stage
  sent : Nat
  received : Nat

/-- The answer to a step. -/
inductive ServerAnswer where
  | nothing
  | flag (b : Bool)
  | number (n : Nat)
  | connected (conn : ConnId)
  | rejected
  | refused
  | noBridge
  | visiting
  | gone
  | unknownPeer
  | reply (t : Option Text)
  | info (i : Option ConnectionInfo)
  | connections (numbers : List Nat)
  | reach (r : Reach)
  | tally (t : Tally)
  | status (s : Status)
  | failed (e : ServerError)

end Trial

/-- A server on trial: what lies before it, the clock on the wall, the observer of its feed, whether
its workers are watched, who takes part, and what the watcher has been told since the step began. -/
structure ServerTrial where
  server : Server
  network : Net.Network
  wallClock : Nat
  observer : SubscriberId
  watched : Bool
  callers : List Trial.Caller := []
  visitors : List Trial.Visitor := []
  notices : List (ConnId × Worker.Notice) := []
  received : List (Text × Text) := []

namespace ServerTrial

open Trial

/-! ## Names of visitors -/

/-- How long the id of a visitor is. -/
def idLength : Nat := 36

/-- The id of the next visitor. -/
def nextId (t : ServerTrial) : SessionId :=
  let digits := Text.decimal (t.visitors.length + 1)
  List.replicate (idLength - digits.length) '0' ++ digits

/-- Puts the ids of visitors in the place of their names. -/
def expand (t : ServerTrial) (text : Text) : Text :=
  t.visitors.foldl (fun text v => Text.replace ('$' :: v.name) v.id text) text

/-- Puts the names of visitors in the place of their ids. -/
def conceal (t : ServerTrial) (text : Text) : Text :=
  t.visitors.foldl (fun text v => Text.replace v.id ('$' :: v.name) text) text

/-- The bytes that are sent. -/
def bytes (t : ServerTrial) : Payload → List UInt8
  | .text text => Text.toUtf8 (t.expand text)
  | .bytes b => b

/-! ## The server, left alone -/

/-- Puts another state of the room into the server. -/
def withRoom (t : ServerTrial) (room : Room) : ServerTrial :=
  { t with server := { t.server with room } }

/-- Something comes to the worker of a connection. -/
def receive (t : ServerTrial) (conn : ConnId) (input : Worker.Input) : ServerTrial :=
  let (notices, server) := t.server.receive conn input t.wallClock
  { t with server, notices := t.notices ++ notices.map (conn, ·) }

/-- A visitor reads what is in its mailbox. -/
def drain (t : ServerTrial) (v : Visitor) : ServerTrial :=
  match t.server.room.bridge.read? v.id with
  | some (frames, _, bridge) =>
    { t.withRoom { t.server.room with bridge } with
      received := t.received ++ frames.map (v.name, ·) }
  | none => t

/-- Lets the server go on until nothing moves any more. -/
def settle (t : ServerTrial) : ServerTrial :=
  let t := t.server.abandoned.foldl (fun t conn => t.receive conn .closedLocally) t
  let t := t.withRoom t.server.room.deliverAll
  (t.visitors.filter (·.present)).foldl drain t

/-! ## Callers -/

/-- The caller with a name. -/
def caller? (t : ServerTrial) (name : Text) : Option Caller := t.callers.find? (·.name = name)

/-- The visitor with a name. -/
def visitor? (t : ServerTrial) (name : Text) : Option Visitor :=
  t.visitors.find? (·.name = name)

/-- Puts another state of a caller in its place. -/
def setCaller (t : ServerTrial) (c : Caller) : ServerTrial :=
  { t with callers := t.callers.map fun d => if d.name = c.name then c else d }

/-- A caller connects. -/
def connect (t : ServerTrial) (name : Text) : ServerTrial × ServerAnswer :=
  if t.network = .unreachable || !t.server.running then (t, .refused)
  else
    match t.server.accept with
    | (none, server) => ({ t with server }, .rejected)
    | (some (conn, notices), server) =>
      let caller : Caller :=
        { name, conn, decoder := .new server.config.maxFrameLength }
      ({ t with
        server
        notices := t.notices ++ notices.map (conn, ·)
        callers := t.callers.filter (·.name ≠ name) ++ [caller] }, .connected conn)

/-- Frames come to the worker of a connection, in order. -/
def receiveFrames (t : ServerTrial) (conn : ConnId) (frames : List Text) : ServerTrial :=
  frames.foldl (fun t raw => t.receive conn (.frame raw)) t

/-- A caller sends bytes. -/
def send (t : ServerTrial) (c : Caller) (payload : Payload) : ServerTrial × ServerAnswer :=
  if !c.sending || (t.server.worker? c.conn).isNone then (t, .gone)
  else
    let (frames, decoder, buffer) := c.decoder.decodeAll (c.buffer ++ t.bytes payload)
    ((t.setCaller { c with decoder, buffer }).receiveFrames c.conn frames, .nothing)

/-- A caller leaves; what it has sent without a line end is still read, unless it breaks off. -/
def leave (t : ServerTrial) (c : Caller) : Leaving → ServerTrial
  | .reset =>
    (t.setCaller { c with sending := false, reading := false }).receive c.conn
      (.readFailure (.io Fault.reset))
  | how =>
    let reading := c.reading && how matches .finish
    let (frame, decoder, buffer) := c.decoder.decodeEnd c.buffer
    let t := t.setCaller { c with decoder, buffer, sending := false, reading }
    (t.receiveFrames c.conn frame.toList).receive c.conn .streamEnd

/-! ## Visitors -/

/-- A visitor comes to the bridge. -/
def visit (t : ServerTrial) (name : Text) : ServerTrial × ServerAnswer :=
  if t.server.config.bridgeAddress.isNone then (t, .noBridge)
  else if t.network = .unreachable || !t.server.running then (t, .refused)
  else
    let id := t.nextId
    ({ t.withRoom (t.server.room.attach id) with
      visitors := t.visitors.filter (·.name ≠ name) ++ [{ name, id }] }, .visiting)

/-- A visitor sends a text. -/
def write (t : ServerTrial) (v : Visitor) (text : Text) : ServerTrial :=
  let (action, r) := t.server.room.guestFrame v.id (t.expand text)
  t.withRoom (if action = .close then r.detach v.id else r)

/-! ## Questions and orders -/

/-- A datagram comes to the server. -/
def query (t : ServerTrial) (payload : Payload) : ServerTrial × ServerAnswer :=
  let (reply, server) := t.server.query (t.bytes payload)
  ({ t with server }, .reply reply)

/-- The connection that is meant. -/
def connOf? (t : ServerTrial) : Who → Option ConnId
  | .conn c => some c
  | .caller name => (t.caller? name).map (·.conn)

/-- Takes in what an order to the server has led to. -/
def obeyed (t : ServerTrial) (conn : ConnId) :
    Except ServerError (List Worker.Notice × Server) → ServerTrial × ServerAnswer
  | .ok (notices, server) =>
    ({ t with server, notices := t.notices ++ notices.map (conn, ·) }, .nothing)
  | .error e => (t, .failed e)

/-- What is known of a connection that is in the table. -/
def info? (t : ServerTrial) (conn : ConnId) : Option ConnectionInfo :=
  if t.server.manager.entries.contains conn then
    (t.server.worker? conn).map fun w =>
      { conn, stage := w.stage, sent := (t.server.room.links conn).taken, received := w.received }
  else none

/-- The state of the server at a glance. -/
def status (t : ServerTrial) : Status :=
  let s := t.server
  { running := s.running
    openConnections := s.manager.entries.length
    sessions := s.room.roster.size
    total := s.room.tally.connectionsOpened.toNat
    bridge := s.config.bridgeAddress.isSome
    guests := s.room.bridge.size
    subscribers := s.room.feed.subscribers.length
    delivering := s.room.feed.isRunning
    connections := Report.connections s.manager.entries.length s.manager.next }

/-- Says something to one session or to all. -/
def announce (t : ServerTrial) (text : Text) : Option SessionId → ServerTrial × ServerAnswer
  | none =>
    let (reach, r) := t.server.room.announce (t.expand text)
    (t.withRoom r, .reach reach)
  | some target =>
    match t.server.room.tell (t.expand target) (t.expand text) with
    | (.ok reach, r) => (t.withRoom r, .reach reach)
    | (.error e, r) => (t.withRoom r, .failed e)

/-- Changes the roster, unless the change is refused. -/
def changeRoster (t : ServerTrial) (changed : Option Roster) : ServerTrial × ServerAnswer :=
  match changed with
  | some roster => (t.withRoom { t.server.room with roster }, .flag true)
  | none => (t, .flag false)

/-! ## Steps -/

/-- Starts the server, or stops it. -/
def switch (t : ServerTrial) (result : Except ServerError Server) : ServerTrial × ServerAnswer :=
  match result with
  | .ok server => ({ t with server }, .nothing)
  | .error e => (t, .failed e)

/-- What a step of a caller or a visitor does; nobody else has such steps. -/
def participate (t : ServerTrial) : ServerStep → Option (ServerTrial × ServerAnswer)
  | .connect name => some (t.connect name)
  | .send name payload => some ((t.caller? name).elim (t, .unknownPeer) (t.send · payload))
  | .leave name how =>
    some ((t.caller? name).elim (t, .unknownPeer) fun c => (t.leave c how, .nothing))
  | .visit name => some (t.visit name)
  | .write name text => some <| (t.visitor? name).elim (t, .unknownPeer) fun v =>
      if v.present then (t.write v text, .nothing) else (t, .gone)
  | .writeBinary name => some <| (t.visitor? name).elim (t, .unknownPeer) fun v =>
      (t, if v.present then .nothing else .gone)
  | .depart name => some <| (t.visitor? name).elim (t, .unknownPeer) fun v =>
      (t.withRoom (t.server.room.detach v.id), .nothing)
  | _ => none

/-- What a step about one connection does. -/
def direct (t : ServerTrial) : ServerStep → Option (ServerTrial × ServerAnswer)
  | .order who frame => some <| (t.connOf? who).elim (t, .unknownPeer) fun conn =>
      t.obeyed conn (t.server.order conn (.send (t.expand frame)) t.wallClock)
  | .remove who => some <| (t.connOf? who).elim (t, .unknownPeer) fun conn =>
      t.obeyed conn (t.server.remove conn t.wallClock)
  | .info who => some <| (t.connOf? who).elim (t, .unknownPeer) fun conn =>
      (t, .info (t.info? conn))
  | _ => none

/-- What a step about the server as a whole does. -/
def manage (t : ServerTrial) : ServerStep → ServerTrial × ServerAnswer
  | .query payload => t.query payload
  | .connections => (t, .connections (t.server.manager.entries.map (·.number)).mergeSort)
  | .notice text target => t.announce text target
  | .publish line =>
    match t.server.room.publish? (t.expand line) with
    | some r => (t.withRoom r, .nothing)
    | none => (t, .failed .feedStopped)
  | .reserve name => t.changeRoster (t.server.room.roster.reserve? (t.expand name))
  | .release name => t.changeRoster (t.server.room.roster.release? (t.expand name))
  | .disconnectAll =>
    let (count, r) := t.server.room.disconnectAll
    (t.withRoom r, .number count)
  | .tally => (t, .tally t.server.room.tally)
  | .status => (t, .status t.status)
  | .start => t.switch t.server.start
  | .shutdown => t.switch t.server.shutdown
  | _ => (t, .nothing)

/-- What a step does. -/
def act (t : ServerTrial) (s : ServerStep) : ServerTrial × ServerAnswer :=
  ((t.participate s).or (t.direct s)).getD (t.manage s)

/-! ## What is seen -/

/-- The answer to a step, who takes part after it, what came to whom, whose end has come, the lines
that the observer was handed, and what the watcher was told of each connection. -/
structure Seen where
  answer : ServerAnswer
  sessions : List Session
  names : List Text
  frames : List (Text × Text)
  closed : List Text
  lines : List Text
  notices : List (ConnId × Worker.Notice)

/-- A session as it is seen. -/
def concealed (t : ServerTrial) (s : Session) : Session :=
  { s with id := t.conceal s.id, name := t.conceal s.name }

/-- The frames that came to callers who still read. -/
def callerFrames (t : ServerTrial) : List (Text × Text) :=
  t.server.room.log.filterMap fun
    | .wrote conn frame .accepted =>
      (t.callers.find? fun c => c.conn = conn && c.reading).map fun c => (c.name, frame)
    | _ => none

/-- The participants whose end has come in this step. -/
def closedNow (t : ServerTrial) : List Text :=
  let callers := t.callers.filter fun c => c.reading && (t.server.room.links c.conn).isClosed
  let visitors := t.visitors.filter fun v =>
    v.present && (t.server.room.bridge.guest? v.id).isNone
  (callers.map (·.name) ++ visitors.map (·.name)).mergeSort Text.atMost

/-- What is seen of a step. -/
def see (t : ServerTrial) (answer : ServerAnswer) : Seen where
  answer
  sessions := t.server.room.roster.sessions.map t.concealed
  names := t.server.room.roster.activeNames.map t.conceal
  frames := (t.callerFrames ++ t.received).map fun (name, frame) => (name, t.conceal frame)
  closed := t.closedNow
  lines := t.server.room.log.filterMap fun
    | .handed id line => if id = t.observer then some (t.conceal line) else none
    | _ => none
  notices := if t.watched then
      t.notices.mergeSort fun a b => decide (a.1.number ≤ b.1.number)
    else []

/-- Those whose end has come no longer read. -/
def partWith (t : ServerTrial) (names : List Text) : ServerTrial :=
  { t with
    callers := t.callers.map fun c =>
      if names.contains c.name then { c with reading := false, sending := false } else c
    visitors := t.visitors.map fun v =>
      if names.contains v.name then { v with present := false } else v }

/-- One whole step; there is none where a datagram finds no way. -/
def step? (t : ServerTrial) (s : ServerStep) : Option (Seen × ServerTrial) :=
  if t.network = .unreachable && s matches .query _ then none
  else
    let t := { t.withRoom { t.server.room with log := [] } with notices := [], received := [] }
    let (t, answer) := t.act s
    let t := t.settle
    let seen := t.see answer
    some (seen, t.partWith seen.closed)

/-- Several steps; there is no result where a datagram finds no way. -/
def run? (t : ServerTrial) : List ServerStep → Option (List Seen)
  | [] => some []
  | s :: rest => do
    let (seen, t) ← t.step? s
    return seen :: (← t.run? rest)

/-! ## Setting up -/

/-- A trial that begins: the server's setup, what lies before it, whether its workers are watched,
and whether it is started. -/
structure Setup where
  config : Server.Config
  network : Net.Network
  wallClock : Nat
  watched : Bool := true
  started : Bool := true

/-- The trial that is set up; one observer follows the feed. -/
def Setup.begin (s : Setup) : Except ServerError ServerTrial := do
  let server ← Server.new s.config
  let (observer, feed) := server.room.feed.subscribe
  let server := { server with room := { server.room with feed } }
  let server ← if s.started then server.start else .ok server
  return { server, network := s.network, wallClock := s.wallClock, observer, watched := s.watched }

end ServerTrial
end Parley
