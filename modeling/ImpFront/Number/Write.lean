import ImpFront.Number.Shortest

/-!
# Writing floating-point numbers

A finite number is written with its shortest decimal (`Binary64.shortest`). The decimal
exponent of its first digit decides the notation: positional within a range of exponents,
with `.0` after an integral value, and otherwise a mantissa with a point after the first
digit, when there are more, and an exponent. Zero keeps its sign; infinities are written as
words; a NaN is written as a word without a sign.

The choices are gathered in one record, `FloatStyle`; listings use `FloatStyle.listing`.
-/

namespace ImpFront

/-- How a floating-point number is written. -/
structure FloatStyle where
  /-- The smallest decimal exponent written positionally. -/
  positionalFrom : Int
  /-- The first decimal exponent, upwards, written with an exponent again. -/
  positionalBelow : Int
  /-- Whether an integral positional number ends in `.0`. -/
  pointZero : Bool
  /-- What stands between mantissa and exponent. -/
  exponentMark : String
  /-- The word for infinity, after a minus sign if negative. -/
  infinity : String
  /-- The word for a NaN. -/
  nan : String

/--
Listings write exponents from -4 to 15 positionally, end an integral value in `.0`, mark an
exponent with `e` and no plus sign, and spell infinity `inf` and a NaN `NaN`.
-/
def FloatStyle.listing : FloatStyle :=
  { positionalFrom := -4, positionalBelow := 16, pointZero := true, exponentMark := "e",
    infinity := "inf", nan := "NaN" }

namespace FloatStyle

/-- The digits `ds` of a decimal `ds · 10^j`, laid out as this style says. -/
def layout (style : FloatStyle) (ds : List Char) (j : Int) : String :=
  let n : Int := ds.length
  let x := j + n - 1
  let zeros := fun (k : Int) => List.replicate k.toNat '0'
  if style.positionalFrom ≤ x ∧ x < style.positionalBelow then
    if 0 ≤ j then
      String.ofList (ds ++ zeros j) ++ (if style.pointZero then ".0" else "")
    else if 0 ≤ x then
      String.ofList (ds.take (x + 1).toNat ++ '.' :: ds.drop (x + 1).toNat)
    else
      String.ofList ('0' :: '.' :: zeros (-x - 1) ++ ds)
  else
    let mantissa := match ds with
      | d :: rest@(_ :: _) => d :: '.' :: rest
      | _ => ds
    String.ofList mantissa ++ style.exponentMark ++ toString x

/-- A binary64 number written in this style. -/
def write (style : FloatStyle) (x : Binary64) : String :=
  if x.isNaN then style.nan
  else
    let sign := if x.negative then "-" else ""
    if x.isInfinite then sign ++ style.infinity
    else if x.isZero then sign ++ "0" ++ (if style.pointZero then ".0" else "")
    else
      let (k, j) := Binary64.shortest x.mantissa x.exponent
      sign ++ style.layout (Nat.toDigits 10 k) j

end FloatStyle

end ImpFront
