/-!
# Source locations

A location names a character of the source text by its line and its column, both counted
from one. Columns count characters, not bytes, and only a line feed starts a new line: a
carriage return or a tab moves one column like any other character.

`Location.after` is the location reached after reading a whole piece of text, so the
location of a token is `Location.start.after` of the text before it.
-/

namespace ImpFront

/-- A position in the source text: a line and a column, both counted from one. -/
structure Location where
  line : Nat
  column : Nat
deriving DecidableEq, Repr, Inhabited

namespace Location

/-- The location of the first character of a text. -/
def start : Location := ⟨1, 1⟩

/--
The location after reading one character: a line feed opens the next line at column one,
every other character moves one column to the right.
-/
def next (loc : Location) (c : Char) : Location :=
  if c = '\n' then ⟨loc.line + 1, 1⟩ else ⟨loc.line, loc.column + 1⟩

/-- The location after reading a whole piece of text, one character at a time. -/
def after (loc : Location) (cs : List Char) : Location :=
  cs.foldl next loc

/-- Locations are written as in "line 3, column 7". -/
def render (loc : Location) : String :=
  "line " ++ toString loc.line ++ ", column " ++ toString loc.column

@[simp]
theorem after_nil (loc : Location) : loc.after [] = loc := rfl

@[simp]
theorem after_cons (loc : Location) (c : Char) (cs : List Char) :
    loc.after (c :: cs) = (loc.next c).after cs := rfl

theorem after_append (loc : Location) (xs ys : List Char) :
    loc.after (xs ++ ys) = (loc.after xs).after ys := by
  simp [after, List.foldl_append]

end Location

end ImpFront
