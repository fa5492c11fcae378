/-
What the frames from connections do. A connection registers once; from then on it speaks under the
name of the session bound to it, gives signs of life, and ends sessions. Handling a frame changes
the room and may leave a line for observers, which is published last of all.
-/
import Parley.Room.Membership

namespace Parley.Room

open Wire (Message Chat)

/-- Where a connection stands after a frame, and the line that is left for observers. -/
structure Handled where
  stage : Stage
  line : Option Text := none
  deriving DecidableEq, Repr

/-! ## Speaking -/

/-- A session says something: to one name, or to everybody. -/
def converse (r : Room) (speaker : Session) (text : Text) : Option Text × Room :=
  match Chat.parse text with
  | .personal target payload =>
    match r.sendPrivate speaker.name target payload with
    | (.nobody, r) => (none, r.notifyInvalid speaker.link target)
    | (_, r) => (none, r)
  | .broadcast text =>
    let (_, r) := r.broadcast (Message.incoming speaker.name text).wire (some speaker.id)
    (some (Wire.displayLine speaker.name text), r)

/-- The session with an id, if it is bound to a connection. -/
def owned? (r : Room) (conn : ConnId) (id : SessionId) : Option Session :=
  (r.roster.lookup? id).filter (·.link = conn)

/-! ## Frames by stage -/

/-- A message before registration; only a registration does anything. -/
def handleUnregistered (r : Room) (conn : ConnId) (now : Nat) : Message → Handled × Room
  | .register id name =>
    match r.register? id name conn now with
    | some r =>
      (⟨.active, some (connectedLine id name)⟩, { r with tally := r.tally.sessionRegistered })
    | none =>
      let r := { r with tally := r.tally.registrationRejected }
      (⟨.awaitingRegister, none⟩, (r.write conn Wire.Marker.duplicated).2)
  | _ => (⟨.awaitingRegister, none⟩, r)

/-- A message after registration. -/
def handleActive (r : Room) (conn : ConnId) (now : Nat) : Message → Handled × Room
  | .incoming id text =>
    match r.owned? conn id with
    | some speaker =>
      let (line, r) := r.converse speaker text
      (⟨.active, line⟩, r)
    | none => (⟨.active, none⟩, r)
  | .logoff id =>
    match r.expel? id with
    | some (session, r) =>
      (⟨if session.link = conn then .closed else .active, some (disconnectedLine id)⟩, r)
    | none => (⟨.active, none⟩, r)
  | .keepAlive id => (⟨.active, none⟩, r.touch id now)
  | _ => (⟨.active, none⟩, r)

/-- A frame from a connection at a stage, at a time of the clock. -/
def handle (r : Room) (conn : ConnId) (stage : Stage) (raw : Text) (now : Nat) : Handled × Room :=
  let r := { r with tally := r.tally.frameReceived }
  match Message.parse raw with
  | .error _ => (⟨stage, none⟩, { r with tally := r.tally.malformedFrame })
  | .ok message =>
    match stage with
    | .accepted | .awaitingRegister => r.handleUnregistered conn now message
    | .active => r.handleActive conn now message
    | .closed => (⟨.closed, none⟩, r)

/-- Publishes the line that is left for observers. -/
def publishLeft (r : Room) (line : Option Text) : Room :=
  match line with
  | some line => r.publish line
  | none => r

/-- A frame from a connection, all that it does. -/
def dispatch (r : Room) (conn : ConnId) (stage : Stage) (raw : Text) (now : Nat) :
    Stage × Room :=
  let (handled, r) := r.handle conn stage raw now
  (handled.stage, r.publishLeft handled.line)

end Parley.Room
