/-
The kinds of messages, told apart by the mark that they start with, and the ways in which a
message of some kind can be malformed.
-/
import Parley.Wire.Marker

namespace Parley.Wire

/-- What a raw message is for. -/
inductive Kind where
  | register
  | logoff
  | incoming
  | debug
  | usernameQuery
  | keepAlive
  | unknown
  deriving DecidableEq, Repr

namespace Kind

/-- The mark that a message of a kind starts with. -/
def header : Kind → Option Text
  | .register => some Marker.connect
  | .logoff => some Marker.disconnect
  | .incoming => some Marker.messageLeft
  | .debug => some Marker.debug
  | .usernameQuery => some Marker.query
  | .keepAlive => some Marker.keepAlive
  | .unknown => none

/-- The name of a kind in reports. -/
def label : Kind → Text
  | .register => "REGISTER"
  | .logoff => "LOGOFF"
  | .incoming => "INCOMING_MESSAGE"
  | .debug => "DEBUG"
  | .usernameQuery => "USERNAME_QUERY"
  | .keepAlive => "KEEP_ALIVE"
  | .unknown => "UNKNOWN"

/-- The kinds with a header, in the order in which they are tried. -/
def tried : List Kind := [.register, .logoff, .incoming, .debug, .usernameQuery, .keepAlive]

/-- Whether a raw message starts with the header of a kind. -/
def heads (k : Kind) (raw : Text) : Bool := k.header.any fun h => Text.startsWith h raw

/-- The kind of a raw message: the first whose header it starts with. -/
def classify (raw : Text) : Kind := (tried.find? (·.heads raw)).getD .unknown

end Kind

/-- What a malformed message lacks. -/
inductive Lack where
  | header
  | nameDelimiter
  | textDelimiter
  | uuid
  | name
  | username
  | incoming
  deriving DecidableEq, Repr

/-- The wording of a lack. -/
def Lack.text : Lack → Text
  | .header => "missing header"
  | .nameDelimiter => "missing name delimiter"
  | .textDelimiter => "missing text delimiter"
  | .uuid => "empty uuid"
  | .name => "empty name"
  | .username => "empty username"
  | .incoming => "not an incoming message"

end Parley.Wire
