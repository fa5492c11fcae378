/-
Messages from one participant to others: to everybody, to the holder of one name, and what the
server says itself. A message to everybody is tried on each session whatever becomes of the others.
-/
import Parley.Room.Guests
import Parley.Wire.Message

namespace Parley

/-- How far a message has come: how many sessions it was for, to how many it went, and the report
of each failure in the order of registration. -/
structure Reach where
  total : Nat := 0
  succeeded : Nat := 0
  failed : Nat := 0
  errors : List (SessionId × Text) := []
  deriving DecidableEq, Repr

namespace Reach

/-- Whether a message has come to everybody it was for. -/
def isComplete (r : Reach) : Bool := r.failed = 0

/-- The failures among the outcomes of writes. -/
def failures (outcomes : List (SessionId × Outcome)) : List (SessionId × Text) :=
  outcomes.filterMap fun (id, outcome) => outcome.failure?.map fun e => (id, e.text)

/-- The reach of a message by the outcomes of its writes. -/
def ofOutcomes (outcomes : List (SessionId × Outcome)) : Reach :=
  let errors := failures outcomes
  { total := outcomes.length
    succeeded := outcomes.length - errors.length
    failed := errors.length
    errors }

end Reach

/-- What becomes of a message to the holder of a name. -/
inductive Handover where
  | delivered
  | nobody
  | failed (error : ServerError)
  deriving DecidableEq, Repr

namespace Room

/-! ## To everybody -/

/-- Writes a frame to each of some sessions. -/
def writeAll (r : Room) (frame : Text) : List Session → List (SessionId × Outcome) × Room
  | [] => ([], r)
  | s :: rest =>
    let (outcome, r) := r.write s.link frame
    let (outcomes, r) := r.writeAll frame rest
    ((s.id, outcome) :: outcomes, r)

/-- The sessions that a message from a session, or from nobody of them, is for. -/
def audience (r : Room) (sender : Option SessionId) : List Session :=
  r.roster.sessions.filter fun s => some s.id ≠ sender

/-- Writes a frame to every session but its sender's. -/
def broadcast (r : Room) (frame : Text) (sender : Option SessionId) : Reach × Room :=
  let (outcomes, r) := r.writeAll frame (r.audience sender)
  (.ofOutcomes outcomes, r)

/-! ## To one name -/

/-- Hands a frame to whoever else may hold a name. -/
def tellDirectory (r : Room) (name frame : Text) : Bool × Room :=
  match r.directory with
  | .guests => r.deliver name frame
  | .standIn names =>
    if names.contains name then (true, r.record (.told name frame)) else (false, r)
  | .unset | .gone => (false, r)

/-- Sends a private message to the holder of a name: the session that has it, else a guest. -/
def sendPrivate (r : Room) (sender target payload : Text) : Handover × Room :=
  let frame := (Wire.Message.private sender target payload).wire
  match r.roster.named? target with
  | some session =>
    let (outcome, r) := r.write session.link frame
    match outcome.failure? with
    | none => (.delivered, r)
    | some e => (.failed e, r)
  | none =>
    let (taken, r) := r.tellDirectory target frame
    (if taken then .delivered else .nobody, r)

/-! ## From the server -/

/-- The frame that tells a sender that nobody has a name. -/
def invalidName (target : Text) : Text :=
  (Wire.Message.notice ("Invalid username: ".toList ++ target)).wire

/-- Tells the sender at a connection that nobody has a name. -/
def notifyInvalid (r : Room) (conn : ConnId) (target : Text) : Room :=
  (r.write conn (invalidName target)).2

/-- Says something to every session. -/
def announce (r : Room) (text : Text) : Reach × Room :=
  r.broadcast (Wire.Message.notice text).wire none

/-- Says something to one session. -/
def tell (r : Room) (id : SessionId) (text : Text) : Except ServerError Reach × Room :=
  match r.roster.lookup? id with
  | none => (.error (.sessionNotFound id), r)
  | some session =>
    let (outcome, r) := r.write session.link (Wire.Message.notice text).wire
    match outcome.failure? with
    | none => (.ok { total := 1, succeeded := 1 }, r)
    | some e => (.error e, r)

end Room
end Parley
