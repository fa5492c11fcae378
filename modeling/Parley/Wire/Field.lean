/-
The named fields of a raw message. One reader for each kind takes the fields out of the text
between the marks; `Kind.tokenize` puts them under their names.
-/
import Parley.Wire.Error

namespace Parley.Wire

/-! ## Readers -/

/-- What follows the header of a kind. -/
def afterHeader (k : Kind) (raw : Text) : Except Error Text :=
  match k.header.bind (Text.stripPrefix? · raw) with
  | some rest => .ok rest
  | none => .error (.malformed k .header)

/-- A field that may not be empty. -/
def nonEmpty (k : Kind) (lack : Lack) (value : Text) : Except Error Text :=
  if value = [] then .error (.malformed k lack) else .ok value

/-- The two fields around the first middle mark. -/
def splitMiddle (k : Kind) (lack : Lack) (body : Text) : Except Error (Text × Text) :=
  match Text.splitAt? Marker.middle body with
  | some parts => .ok parts
  | none => .error (.malformed k lack)

/-- The id and the name of a registration. -/
def readRegister (raw : Text) : Except Error (Text × Text) := do
  let body ← afterHeader .register raw
  let (uuid, name) ←
    splitMiddle .register .nameDelimiter (Text.dropSuffix Marker.connect body)
  return (← nonEmpty .register .uuid uuid, ← nonEmpty .register .name name)

/-- The id of a logoff. -/
def readLogoff (raw : Text) : Except Error Text := do
  nonEmpty .logoff .uuid (← afterHeader .logoff raw)

/-- The sender slot and the text of a chat message. -/
def readIncoming (raw : Text) : Except Error (Text × Text) := do
  let body ← afterHeader .incoming raw
  let (uuid, rest) ← splitMiddle .incoming .textDelimiter body
  return (← nonEmpty .incoming .uuid uuid, Text.dropPrefix Marker.messageRight rest)

/-- The name that a query asks about. -/
def readQuery (raw : Text) : Except Error Text := do
  nonEmpty .usernameQuery .username (← afterHeader .usernameQuery raw)

/-- The id of a sign of life. -/
def readKeepAlive (raw : Text) : Except Error Text := do
  let body ← afterHeader .keepAlive raw
  nonEmpty .keepAlive .uuid (Text.dropSuffix Marker.keepAlive body)

/-! ## Fields by name -/

/-- The names that fields go by. -/
inductive Field where
  | uuid
  | name
  | messageText
  | username
  deriving DecidableEq, Repr

/-- A field's name as it is written. -/
def Field.label : Field → Text
  | .uuid => "uuid"
  | .name => "name"
  | .messageText => "messageText"
  | .username => "username"

/-- Fields and their values. -/
abbrev Fields := List (Field × Text)

/-- The value of the field that a name writes. -/
def Fields.get? (fields : Fields) (name : Text) : Option Text :=
  (fields.find? (·.1.label = name)).map (·.2)

/-- The fields of a raw message read as one of some kind. -/
def Kind.tokenize (k : Kind) (raw : Text) : Except Error Fields :=
  match k with
  | .register => do
    let (uuid, name) ← readRegister raw
    return [(.uuid, uuid), (.name, name)]
  | .logoff => do return [(.uuid, ← readLogoff raw)]
  | .incoming => do
    let (uuid, text) ← readIncoming raw
    return [(.uuid, uuid), (.messageText, text)]
  | .debug => do
    let _ ← afterHeader .debug raw
    return []
  | .usernameQuery => do return [(.username, ← readQuery raw)]
  | .keepAlive => do return [(.uuid, ← readKeepAlive raw)]
  | .unknown => .ok []

end Parley.Wire
