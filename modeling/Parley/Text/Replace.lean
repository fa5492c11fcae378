/-
Putting one text in the place of every occurrence of another.
-/
import Parley.Text

namespace Parley.Text

/-- Replaces the occurrences of `old` from left to right, in at most `fuel` characters. -/
def replaceWithin (old new : Text) : (fuel : Nat) → Text → Text
  | 0, t => t
  | _, [] => []
  | fuel + 1, c :: cs =>
    match stripPrefix? old (c :: cs) with
    | some rest => new ++ replaceWithin old new fuel rest
    | none => c :: replaceWithin old new fuel cs

/-- Replaces every occurrence of `old`, which is not empty. -/
def replace (old new t : Text) : Text := replaceWithin old new t.length t

end Parley.Text
