import ImpFront.Number.Rounding

/-!
# Reading number literals

An integer literal is read as an optional sign and one or more ASCII digits, nothing else,
and must lie in the signed 64-bit range, from `-2^63` to `2^63 - 1`.

A floating-point literal is an optional sign followed by either a decimal or a word: a
decimal is digits with an optional point, at least one digit in all, then an optional
exponent, `e` or `E` with an optional sign and at least one digit; the words are `inf`,
`infinity` and `nan`, in any mix of cases. The value of a decimal is correctly rounded, and
one too large for a finite number is infinity. A minus sign flips the sign bit, also of
zero and of NaN.
-/

namespace ImpFront

namespace Numeral

/-- The value of a list of decimal digits. -/
def digitsValue (ds : List Char) : Nat :=
  ds.foldl (fun acc c => 10 * acc + (c.toNat - '0'.toNat)) 0

/-- Splits off a leading sign: whether it is a minus, and the rest. -/
def splitSign : List Char → Bool × List Char
  | '-' :: r => (true, r)
  | '+' :: r => (false, r)
  | r => (false, r)

/-- A signed decimal integer: a sign, then one or more digits and nothing else. -/
def readSigned? (cs : List Char) : Option Int :=
  let (minus, body) := splitSign cs
  if body.isEmpty || !body.all Char.isDigit then none
  else
    let v : Int := digitsValue body
    some (if minus then -v else v)

/--
The value of an integer literal: an optional sign and one or more digits, read as a signed
decimal and kept only when it lies in the signed 64-bit range.
-/
def readInt? (s : String) : Option Int :=
  match readSigned? s.toList with
  | some v => if -9223372036854775808 ≤ v ∧ v ≤ 9223372036854775807 then some v else none
  | none => none

/--
A decimal without sign: its digits as one integer, and the power of ten that the point and
the exponent give.
-/
def readDecimal? (cs : List Char) : Option (Nat × Int) :=
  let whole := cs.takeWhile Char.isDigit
  let (frac, rest) := match cs.dropWhile Char.isDigit with
    | '.' :: r => (r.takeWhile Char.isDigit, r.dropWhile Char.isDigit)
    | r => ([], r)
  if whole.isEmpty && frac.isEmpty then none
  else
    let exp? : Option Int := match rest with
      | [] => some 0
      | c :: r => if c = 'e' || c = 'E' then readSigned? r else none
    exp?.map fun x => (digitsValue (whole ++ frac), x - frac.length)

/-- The value of a floating-point literal, if it is one. -/
def readFloat? (s : String) : Option Binary64 :=
  let (minus, body) := splitSign s.toList
  let signed := fun (x : Binary64) => if minus then x.neg else x
  let word := String.ofList (body.map Char.toLower)
  if word = "inf" ∨ word = "infinity" then some (signed Binary64.infinity)
  else if word = "nan" then some (signed Binary64.nan)
  else (readDecimal? body).map fun (d, e) => signed (Binary64.ofDecimal d e)

end Numeral

end ImpFront
