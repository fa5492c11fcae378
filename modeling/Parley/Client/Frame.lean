/-
What a frame from the server means to a client, and the line that it shows for it. That a name is
taken is said by a mark of its own, with any blanks after it; what a client does not know, it
leaves alone.
-/
import Parley.Wire.Message
import Parley.Wire.Chat

namespace Parley.Client

/-- A frame from the server. -/
inductive Frame where
  | chat (sender text : Text)
  | logoff
  | nameDuplicated
  | other
  deriving DecidableEq, Repr

namespace Frame

/-- The meaning of a frame. -/
def parse (raw : Text) : Frame :=
  if Text.trimEnd raw = Text.trimEnd Wire.Marker.duplicated then .nameDuplicated
  else
    match Wire.Message.parse raw with
    | .ok (.incoming sender text) => .chat sender text
    | .ok (.logoff _) => .logoff
    | _ => .other

/-- The line shown for a frame. -/
def line? : Frame → Option Text
  | .chat sender text => some (Wire.displayLine sender text)
  | .logoff => some "Server closed the connection."
  | .nameDuplicated | .other => none

end Frame
end Parley.Client
