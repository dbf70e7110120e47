/-!
# Blank characters

The characters that separate tokens are those of the Unicode White_Space property: the
ASCII tab, line feed, vertical tab, form feed, carriage return and space, the next-line
control U+0085, the no-break space U+00A0, the Ogham space mark, the spaces U+2000 to
U+200A, the line and paragraph separators, the narrow no-break space, the medium
mathematical space and the ideographic space.

The byte order mark U+FEFF and the information separators U+001C to U+001F are not blank.
-/

namespace ImpFront.Text

/-- The code points of the Unicode White_Space property, as closed ranges. -/
def blankRanges : List (Nat × Nat) :=
  [(0x09, 0x0D), (0x20, 0x20), (0x85, 0x85), (0xA0, 0xA0), (0x1680, 0x1680),
   (0x2000, 0x200A), (0x2028, 0x2029), (0x202F, 0x202F), (0x205F, 0x205F),
   (0x3000, 0x3000)]

/-- A blank character separates tokens and is otherwise skipped. -/
def isBlank (c : Char) : Bool :=
  blankRanges.any fun r => r.1 ≤ c.toNat && c.toNat ≤ r.2

/-- Every character that core counts as whitespace is blank here too. -/
theorem isBlank_of_isWhitespace (c : Char) (h : c.isWhitespace = true) : isBlank c = true := by
  simp only [Char.isWhitespace, Bool.or_eq_true, decide_eq_true_eq] at h
  rcases h with ((h | h) | h) | h <;>
    simp [isBlank, blankRanges, h, Char.toNat]

end ImpFront.Text
