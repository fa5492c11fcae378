/-
The worker of one connection. It handles what comes in order: frames, the end of the stream, a
failure to read, orders from outside, and the closing of its own link by others. When it has
ended, no session is bound to its connection and its link is closed; whoever watches it is told.
-/
import Parley.Room.Frames

namespace Parley

/-- An order to a worker. -/
inductive Control where
  | send (frame : Text)
  | close
  deriving DecidableEq, Repr

/-- What comes to a worker. -/
inductive Worker.Input where
  | frame (raw : Text)
  | streamEnd
  | readFailure (error : ServerError)
  | control (order : Control)
  | closedLocally
  deriving DecidableEq, Repr

/-- What a watcher is told. -/
inductive Worker.Notice where
  | connected
  | registered (id : SessionId) (name : Text)
  | failed (error : ServerError)
  | disconnected (linkClosed : Bool)
  deriving DecidableEq, Repr

/-- A worker: its connection, the stage that it shows, how many frames it has read, and whether it
has ended. -/
structure Worker where
  conn : ConnId
  stage : Stage := .accepted
  received : Nat := 0
  ended : Bool := false
  deriving DecidableEq, Repr

namespace Worker

/-- The worker begins to wait for its participant's name. -/
def start (w : Worker) : Worker × List Notice :=
  ({ w with stage := .awaitingRegister }, [.connected])

/-- The worker ends: with it ends the session that is bound to its connection. -/
def finish (r : Room) (w : Worker) : Room × Worker × List Notice :=
  let r := ((r.connectionLost? w.conn).map (·.2)).getD r
  let r := r.close w.conn
  (r, { w with stage := .closed, ended := true },
    [.disconnected (r.links w.conn).isClosed])

/-- The worker ends over a failure. -/
def fail (r : Room) (w : Worker) (error : ServerError) : Room × Worker × List Notice :=
  let (r, w, notices) := w.finish r
  (r, w, .failed error :: notices)

/-- The session that has begun on a connection, if it has become active. -/
def newcomer? (r : Room) (conn : ConnId) (before after : Stage) : Option SessionId :=
  if before ≠ .active ∧ after = .active then (r.roster.bound? conn).map (·.id) else none

/-- What is told of a session that has begun; if it is there no more, it has no name. -/
def introduction (r : Room) (id : SessionId) : Notice :=
  .registered id ((r.roster.nameOf? id).getD [])

/-- What is told of a connection that has come to a stage. -/
def registration (r : Room) (conn : ConnId) (before after : Stage) : List Notice :=
  (newcomer? r conn before after).toList.map (introduction r)

/-- The worker handles a frame. -/
def handleFrame (r : Room) (w : Worker) (raw : Text) (now : Nat) :
    Room × Worker × List Notice :=
  let (stage, r) := r.dispatch w.conn w.stage raw now
  let told := registration r w.conn w.stage stage
  let w := { w with stage, received := w.received + 1 }
  if stage = .closed then
    let (r, w, notices) := w.finish r
    (r, w, told ++ notices)
  else (r, w, told)

/-- The worker writes a frame that it was ordered to; only the link counts it. -/
def obey (r : Room) (w : Worker) (frame : Text) : Room × Worker × List Notice :=
  let (outcome, link) := (r.links w.conn).write frame
  let r := { r with links := r.links.set w.conn link }.record (.wrote w.conn frame outcome)
  match outcome.failure? with
  | none => (r, w, [])
  | some e => w.fail r e

/-- What comes to a worker; after its end nothing does. -/
def receive (r : Room) (w : Worker) (input : Input) (now : Nat) : Room × Worker × List Notice :=
  if w.ended then (r, w, [])
  else
    match input with
    | .frame raw => w.handleFrame r raw now
    | .streamEnd | .closedLocally | .control .close => w.finish r
    | .readFailure e => w.fail r e
    | .control (.send frame) => w.obey r frame

/-- Several inputs, one after the other, each at its time. -/
def receiveAll (r : Room) (w : Worker) :
    List (Input × Nat) → Room × Worker × List Notice
  | [] => (r, w, [])
  | (input, now) :: rest =>
    let (r, w, notices) := w.receive r input now
    let (r, w, more) := receiveAll r w rest
    (r, w, notices ++ more)

end Worker
end Parley
