/-
Text as UTF-8 bytes. Reading never fails: a byte sequence that starts like a character and does
not go on like one is replaced, as far as it went, by one replacement character, and so is each
byte that starts no character at all. The reader takes one byte at a time and carries the
character that is under way (`Partial`).
-/
import Parley.Text

namespace Parley.Text

/-- The UTF-8 bytes of a text. -/
def toUtf8 (t : Text) : List UInt8 := t.flatMap String.utf8EncodeChar

/-- Stands for bytes that are no character. -/
def replacement : Char := '\uFFFD'

/-- A character of which some bytes are still to come: their number, the range the next one must
be in, and the value read so far. -/
structure Partial where
  missing : Nat
  low : UInt8
  high : UInt8
  value : Nat
  deriving DecidableEq, Repr

/-- Reads a byte that begins a character. -/
def beginByte (b : UInt8) : Text × Option Partial :=
  let n := b.toNat
  if n < 0x80 then ([Char.ofNat n], none)
  else if n < 0xC2 then ([replacement], none)
  else if n < 0xE0 then ([], some ⟨1, 0x80, 0xBF, n - 0xC0⟩)
  else if n = 0xE0 then ([], some ⟨2, 0xA0, 0xBF, 0⟩)
  else if n = 0xED then ([], some ⟨2, 0x80, 0x9F, 0xD⟩)
  else if n < 0xF0 then ([], some ⟨2, 0x80, 0xBF, n - 0xE0⟩)
  else if n = 0xF0 then ([], some ⟨3, 0x90, 0xBF, 0⟩)
  else if n < 0xF4 then ([], some ⟨3, 0x80, 0xBF, n - 0xF0⟩)
  else if n = 0xF4 then ([], some ⟨3, 0x80, 0x8F, 4⟩)
  else ([replacement], none)

/-- Reads one byte: the characters that it completes and the character then under way. -/
def takeByte (p : Option Partial) (b : UInt8) : Text × Option Partial :=
  match p with
  | none => beginByte b
  | some p =>
    if p.low ≤ b ∧ b ≤ p.high then
      let value := p.value * 64 + (b.toNat - 0x80)
      if p.missing ≤ 1 then ([Char.ofNat value], none)
      else ([], some ⟨p.missing - 1, 0x80, 0xBF, value⟩)
    else
      let (cs, p') := beginByte b
      (replacement :: cs, p')

/-- Reads bytes on from a character under way. -/
def fromUtf8From : Option Partial → List UInt8 → Text
  | none, [] => []
  | some _, [] => [replacement]
  | p, b :: bs =>
    let (cs, p') := takeByte p b
    cs ++ fromUtf8From p' bs

/-- The text that bytes stand for, with replacements for what is no text. -/
def fromUtf8 (bs : List UInt8) : Text := fromUtf8From none bs

@[simp] theorem toUtf8_nil : toUtf8 [] = [] := rfl

@[simp] theorem toUtf8_cons (c : Char) (t : Text) :
    toUtf8 (c :: t) = String.utf8EncodeChar c ++ toUtf8 t := rfl

@[simp] theorem toUtf8_append (a b : Text) : toUtf8 (a ++ b) = toUtf8 a ++ toUtf8 b := by
  simp [toUtf8]

/-- The UTF-8 length of a text is the number of its UTF-8 bytes. -/
theorem length_toUtf8 (t : Text) : (toUtf8 t).length = utf8Length t := by
  induction t with
  | nil => rfl
  | cons c t ih => simp [utf8Length] at *; omega

end Parley.Text
