/-
The messages of the protocol: reading a raw text as a message, and the exact text of one. Reading
never fails to classify; what is classified and lacks a mark or a field is malformed.
-/
import Parley.Wire.Field

namespace Parley.Wire

/-- A message between a participant and the server. -/
inductive Message where
  | register (uuid name : Text)
  | logoff (uuid : Text)
  | incoming (uuid text : Text)
  | debug
  | usernameQuery (name : Text)
  | keepAlive (uuid : Text)
  | unknown (raw : Text)
  deriving DecidableEq, Repr

namespace Message

/-- The message that a raw text is. -/
def parse (raw : Text) : Except Error Message :=
  match Kind.classify raw with
  | .register => do
    let (uuid, name) ← readRegister raw
    return .register uuid name
  | .logoff => do return .logoff (← readLogoff raw)
  | .incoming => do
    let (uuid, text) ← readIncoming raw
    return .incoming uuid text
  | .debug => .ok .debug
  | .usernameQuery => do return .usernameQuery (← readQuery raw)
  | .keepAlive => do return .keepAlive (← readKeepAlive raw)
  | .unknown => .ok (.unknown raw)

/-- The text of a message on the wire. -/
def wire : Message → Text
  | .register uuid name => Marker.connect ++ uuid ++ Marker.middle ++ name ++ Marker.connect
  | .logoff uuid => Marker.disconnect ++ uuid
  | .incoming uuid text =>
    Marker.messageLeft ++ uuid ++ Marker.middle ++ Marker.messageRight ++ text
  | .debug => Marker.debug
  | .usernameQuery name => Marker.query ++ name
  | .keepAlive uuid => Marker.keepAlive ++ uuid ++ Marker.keepAlive
  | .unknown raw => raw

/-- The kind of a message. -/
def kind : Message → Kind
  | .register .. => .register
  | .logoff _ => .logoff
  | .incoming .. => .incoming
  | .debug => .debug
  | .usernameQuery _ => .usernameQuery
  | .keepAlive _ => .keepAlive
  | .unknown _ => .unknown

/-- What the server says itself. -/
def notice (text : Text) : Message := .incoming Marker.server text

/-- A private message as its target gets it: the sender slot names both. -/
def «private» (sender target payload : Text) : Message :=
  .incoming (sender ++ Marker.arrow ++ target) payload

end Message
end Parley.Wire
