/-
What the frames from guests do. A guest reserves one nickname and speaks under it, asks whether a
name is taken, and leaves; a frame that names another sender does nothing.
-/
import Parley.Query
import Parley.Room.Frames

namespace Parley.Room

open Wire (Message Chat)

/-- Whether a guest is read on after a frame. -/
inductive GuestAction where
  | goOn
  | close
  deriving DecidableEq, Repr

/-- Reserves a name for a guest who has none; a taken name is refused to its face, and one that is
reserved for a guest who has left is released again. -/
def nameGuest (r : Room) (id : SessionId) (name : Text) : Room :=
  if (r.bridge.nicknameOf? id).isSome then r
  else
    match r.roster.reserve? name with
    | none => (r.sendTo id Wire.Marker.duplicated).2
    | some roster =>
      let r := { r with roster }
      match r.bridge.guest? id with
      | some _ => { r with bridge := r.bridge.nickname id name }
      | none => r.release name

/-- A guest says something under its nickname: to one name, or to everybody. -/
def guestConverse (r : Room) (id : SessionId) (nickname text : Text) : Option Text × Room :=
  match Chat.parse text with
  | .personal target payload =>
    match r.sendPrivate nickname target payload with
    | (.nobody, r) => (none, (r.sendTo id (invalidName target)).2)
    | (_, r) => (none, r)
  | .broadcast text =>
    let (_, r) := r.broadcast (Message.incoming nickname text).wire none
    (some (Wire.displayLine nickname text), r)

/-- A well-formed message from a guest, which came as `raw`. -/
def guestMessage (r : Room) (id : SessionId) (raw : Text) :
    Message → GuestAction × Option Text × Room
  | .register _ name => (.goOn, none, r.nameGuest id name)
  | .incoming sender text =>
    if sender = id then
      match r.bridge.nicknameOf? id with
      | some nickname =>
        let (line, r) := r.guestConverse id nickname text
        (.goOn, line, r)
      | none => (.goOn, none, r)
    else (.goOn, none, r)
  | .usernameQuery _ =>
    match r.roster.answer? raw with
    | some reply => (.goOn, none, (r.sendTo id reply).2)
    | none => (.goOn, none, r)
  | .logoff who => (if who = id then .close else .goOn, none, r)
  | .debug | .keepAlive _ | .unknown _ => (.goOn, none, r)

/-- A frame from a guest, and the line that is left for observers. -/
def guestHandle (r : Room) (id : SessionId) (raw : Text) : GuestAction × Option Text × Room :=
  match Message.parse raw with
  | .error _ => (.goOn, none, r)
  | .ok message => r.guestMessage id raw message

/-- A frame from a guest, all that it does. -/
def guestFrame (r : Room) (id : SessionId) (raw : Text) : GuestAction × Room :=
  let (action, line, r) := r.guestHandle id raw
  (action, r.publishLeft line)

end Parley.Room
