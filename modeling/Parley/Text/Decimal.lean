/-
Whole numbers in decimal: writing one, and reading one with an optional plus sign, any number of
leading zeros and an upper bound.
-/
import Parley.Text

namespace Parley.Text

/-- A number in decimal. -/
def decimal (n : Nat) : Text := Nat.toDigits 10 n

/-- The value of a decimal digit. -/
def digit? (c : Char) : Option Nat :=
  if '0' ≤ c ∧ c ≤ '9' then some (c.toNat - '0'.toNat) else none

/-- Reads digits on after a value read so far, and refuses anything else. -/
def readDigits (value : Nat) : Text → Option Nat
  | [] => some value
  | c :: cs => (digit? c).bind fun d => readDigits (value * 10 + d) cs

/-- The number below `bound` that a text writes: digits, at least one, after at most one plus. -/
def readDecimal (bound : Nat) (t : Text) : Option Nat :=
  match dropPrefix ['+'] t with
  | [] => none
  | c :: cs => (readDigits 0 (c :: cs)).filter (· < bound)

end Parley.Text
