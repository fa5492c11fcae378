/-
The answer to the question whether a name is taken. Line ends after a question do not count, and
what is no well-formed question gets no answer.
-/
import Parley.Roster
import Parley.Wire.Message

namespace Parley

/-- Whether a character ends lines. -/
def isLineEnd (c : Char) : Bool := c == '\r' || c == '\n'

/-- The name that a request asks about. -/
def askedName? (request : Text) : Option Text :=
  match Wire.Message.parse (Text.trimEndWhile isLineEnd request) with
  | .ok (.usernameQuery name) => some name
  | _ => none

/-- The answer to a request: taken if a session or a reservation has the name, free otherwise. -/
def Roster.answer? (r : Roster) (request : Text) : Option Text :=
  (askedName? request).map fun name =>
    if r.isActive name then Wire.Marker.duplicated else Wire.Marker.clear

end Parley
