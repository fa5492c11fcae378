/-
Text between quotes, as it is shown in reports: a quote, a backslash and a control character are
written as escapes, and so is every character that would not be seen on its own. A character that
can be seen stands for itself.
-/
import Parley.Text.Printable

namespace Parley.Text

/-- A character by its code point in hexadecimal, between braces. -/
def codeEscape (c : Char) : Text := "\\u\x7b".toList ++ Nat.toDigits 16 c.toNat ++ "\x7d".toList

/-- One character as it is written between quotes. -/
def quotedChar (c : Char) : Text :=
  match c with
  | '\x00' => ['\\', '0']
  | '\t' => ['\\', 't']
  | '\r' => ['\\', 'r']
  | '\n' => ['\\', 'n']
  | '\\' => ['\\', '\\']
  | '"' => ['\\', '"']
  | c => if isExtending c || !isPrintable c then codeEscape c else [c]

/-- A text between quotes. -/
def quoted (t : Text) : Text := '"' :: t.flatMap quotedChar ++ ['"']

end Parley.Text
