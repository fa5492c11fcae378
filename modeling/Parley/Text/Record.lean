/-
The text of a value that has named parts, and of a list of values.
-/
import Parley.Text

namespace Parley.Text

/-- Texts with a comma and a blank between them. -/
def commas (parts : List Text) : Text := ", ".toList.intercalate parts

/-- A value by its name, with its parts in braces. -/
def record (name : Text) (parts : List (Text × Text)) : Text :=
  name ++ " \x7b ".toList ++ commas (parts.map fun (part, shown) => part ++ ": ".toList ++ shown) ++
    " \x7d".toList

/-- A value by its name, with what it wraps in parentheses. -/
def wrapped (name shown : Text) : Text := name ++ '(' :: shown ++ [')']

/-- A list in brackets. -/
def brackets (parts : List Text) : Text := '[' :: commas parts ++ [']']

/-- A truth value. -/
def flag (b : Bool) : Text := if b then "true".toList else "false".toList

end Parley.Text
