/-
The literal marks of the text protocol. A field is what stands between two of them; nothing is
escaped, so a reader splits at the first occurrence of a mark.
-/
import Parley.Text

namespace Parley.Wire.Marker

/-- Starts and may end a registration. -/
def connect : Text := "<< CONNECT >>".toList

/-- Stands between the two fields of a registration or of a chat message. -/
def middle : Text := ">>>>>".toList

/-- Starts a logoff. -/
def disconnect : Text := "<< DISCONNECT >>".toList

/-- Starts a chat message. -/
def messageLeft : Text := "<< MESSAGE >>> <<<<".toList

/-- May stand in front of the text of a chat message. -/
def messageRight : Text := " << MESSAGE >>".toList

/-- Asks for a dump of the sessions. -/
def debug : Text := "/// DEBUG ///".toList

/-- Starts a question whether a name is taken. -/
def query : Text := "<<< DUP ? >>> ".toList

/-- Says that a name is taken. -/
def duplicated : Text := ">>> DUPLICATED <<< ".toList

/-- Says that a name is free. -/
def clear : Text := "<<< Clear >>>".toList

/-- Starts and may end a sign of life. -/
def keepAlive : Text := "<< KEEP ALIVE >>".toList

/-- Starts the greeting of a bridge guest. -/
def greetingLeft : Text := "<WS><<".toList

/-- Ends the greeting of a bridge guest. -/
def greetingRight : Text := ">>".toList

/-- The sender of what the server says itself. -/
def server : Text := "SERVER".toList

/-- Stands between a name and what is said under it. -/
def colon : Text := ": ".toList

/-- Stands between the sender and the target of a private message. -/
def arrow : Text := " -> ".toList

/-- Starts the address of a private message. -/
def privateMark : Char := '@'

/-- Ends the address of a private message. -/
def addressEnd : Char := '#'

end Parley.Wire.Marker
