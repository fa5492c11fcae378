/-
The blank characters (the Unicode property White_Space), as ranges, and trimming by them. All of
the characters that core counts as whitespace are blank (`isBlank_of_isWhitespace`).
-/
import Parley.Text

namespace Parley.Text

/-- The ranges of White_Space, in order. -/
def blankRanges : List (Nat × Nat) :=
  [(0x9, 0xD), (0x20, 0x20), (0x85, 0x85), (0xA0, 0xA0), (0x1680, 0x1680), (0x2000, 0x200A),
    (0x2028, 0x2029), (0x202F, 0x202F), (0x205F, 0x205F), (0x3000, 0x3000)]

/-- Whether a character is blank. -/
def isBlank (c : Char) : Bool := blankRanges.any fun (lo, hi) => lo ≤ c.toNat && c.toNat ≤ hi

/-- A text without the blanks at both ends. -/
def trim (t : Text) : Text := trimWhile isBlank t

/-- A text without the blanks at its end. -/
def trimEnd (t : Text) : Text := trimEndWhile isBlank t

theorem isBlank_of_isWhitespace (c : Char) (h : c.isWhitespace = true) : isBlank c = true := by
  simp only [Char.isWhitespace, Bool.or_eq_true, decide_eq_true_eq] at h
  rcases h with ((h | h) | h) | h <;> subst h <;> decide

end Parley.Text
