/-
What can go wrong with a message or a frame, and how it is reported.
-/
import Parley.Fault
import Parley.Wire.Kind

namespace Parley.Wire

/-- A failure of the text protocol. -/
inductive Error where
  | malformed (kind : Kind) (lack : Lack)
  | frameTooLong (limit : Nat)
  | embeddedNewline
  | io (fault : Fault)
  deriving DecidableEq, Repr

namespace Error

/-- The report of a failure. -/
def text : Error → Text
  | .malformed k l => "Malformed ".toList ++ k.label ++ " message: ".toList ++ l.text
  | .frameTooLong n =>
    "Frame exceeds maximum length of ".toList ++ Text.decimal n ++ " bytes".toList
  | .embeddedNewline => "Frame contains an embedded newline"
  | .io f => "I/O error: ".toList ++ f.text

/-- Whether the stream can be read on after a failure. -/
def isRecoverable : Error → Bool
  | .io _ => false
  | _ => true

end Error
end Parley.Wire
