/-
What chat text says about whom it is for, the lines that are shown for it, and the greeting that
tells a bridge guest its id.
-/
import Parley.Text.Blank
import Parley.Wire.Marker

namespace Parley.Wire

/-! ## Addressing -/

/-- Chat text by its audience: one participant, or everybody but the sender. -/
inductive Chat where
  | personal (target payload : Text)
  | broadcast (text : Text)
  deriving DecidableEq, Repr

namespace Chat

/-- The target and the payload of a text that addresses one participant. -/
def address? (text : Text) : Option (Text × Text) :=
  ((Text.stripPrefix? [Marker.privateMark] text).bind (Text.splitAt? [Marker.addressEnd])).filter
    fun (target, _) => target ≠ []

/-- Text that starts with an address is for its target; any other is for everybody. -/
def parse (text : Text) : Chat :=
  match address? text with
  | some (target, payload) => .personal target payload
  | none => .broadcast text

/-- The text that is delivered. -/
def payload : Chat → Text
  | .personal _ payload => payload
  | .broadcast text => text

/-- The text that addresses one participant. -/
def addressed (target payload : Text) : Text :=
  Marker.privateMark :: target ++ Marker.addressEnd :: payload

end Chat

/-! ## Lines -/

/-- The line shown for a text said under a name. -/
def displayLine (name text : Text) : Text := name ++ Marker.colon ++ text

/-- Who speaks on a line: what stands before the first colon, without blanks around it. -/
def displaySpeaker (line : Text) : Text := Text.trim (line.takeWhile (· ≠ ':'))

/-! ## Greeting -/

/-- The first frame of a bridge guest. -/
def greeting (id : Text) : Text := Marker.greetingLeft ++ id ++ Marker.greetingRight

/-- The id in a greeting. -/
def readGreeting (frame : Text) : Option Text :=
  ((Text.stripPrefix? Marker.greetingLeft frame).bind
    (Text.stripSuffix? Marker.greetingRight)).filter (· ≠ [])

end Parley.Wire
