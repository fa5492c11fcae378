/-
Sessions and the connections they are bound to, the states that a connection goes through, and the
lines that tell everybody of a session's start and end.
-/
import Parley.Text.Decimal

namespace Parley

/-- The id that a participant goes by on the wire. -/
abbrev SessionId := Text

/-! ## Connections -/

/-- A connection, by its number; numbers are given out once. -/
structure ConnId where
  number : Nat
  deriving DecidableEq, Repr

/-- The text of a connection's number. -/
def ConnId.text (c : ConnId) : Text := "conn-".toList ++ Text.decimal c.number

/-- Where a connection stands: taken in, asked for its name, taking part, over. -/
inductive Stage where
  | accepted
  | awaitingRegister
  | active
  | closed
  deriving DecidableEq, Repr

namespace Stage

/-- The number of a stage. -/
def number : Stage → Nat
  | .accepted => 0
  | .awaitingRegister => 1
  | .active => 2
  | .closed => 3

/-- The stage with a number; every number past the last means that the connection is over. -/
def ofNumber : Nat → Stage
  | 0 => .accepted
  | 1 => .awaitingRegister
  | 2 => .active
  | _ => .closed

/-- The text of a stage. -/
def text : Stage → Text
  | .accepted => "accepted"
  | .awaitingRegister => "awaiting-register"
  | .active => "active"
  | .closed => "closed"

theorem ofNumber_number (s : Stage) : ofNumber s.number = s := by cases s <;> rfl

end Stage

/-! ## Sessions -/

/-- A participant who has a name: its id and name, the connection it is bound to, its place in the
order of registration, and its last sign of life in milliseconds. -/
structure Session where
  id : SessionId
  name : Text
  link : ConnId
  sequence : Nat
  mark : Nat
  deriving DecidableEq, Repr

/-- The line for a session that has begun. -/
def connectedLine (id : SessionId) (name : Text) : Text :=
  "Client: ".toList ++ id ++ " (".toList ++ name ++ ") Connected.".toList

/-- The line for a session that has ended. -/
def disconnectedLine (id : SessionId) : Text :=
  "Client: ".toList ++ id ++ " Disconnected.".toList

end Parley
