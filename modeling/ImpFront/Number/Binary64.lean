/-!
# Binary64 numbers

A double-precision binary floating-point number is stored as 64 bits: a sign bit, eleven
bits of biased exponent and fifty-two bits of fraction. A biased exponent of zero makes a
zero or a subnormal number, the value `fraction · 2^-1074`; the largest biased exponent,
2047, makes an infinity (fraction zero) or a NaN; every other biased exponent `e` makes the
value `(2^52 + fraction) · 2^(e - 1075)`.

Numbers are kept as their bit patterns, so that equal patterns are equal numbers, and a
finite nonzero magnitude is read as an integer mantissa and a power of two (`mantissa`,
`exponent`).
-/

namespace ImpFront

/-- A double-precision binary floating-point number, given by its 64-bit pattern. -/
structure Binary64 where
  bits : UInt64
deriving DecidableEq, Repr, Inhabited

namespace Binary64

/-- The fraction field: the low fifty-two bits. -/
def fraction (x : Binary64) : Nat := x.bits.toNat % Nat.pow 2 52

/-- The biased exponent field: the eleven bits above the fraction. -/
def biasedExponent (x : Binary64) : Nat := x.bits.toNat / Nat.pow 2 52 % Nat.pow 2 11

/-- The sign bit: true for negative numbers, negative zero and NaNs with the bit set. -/
def negative (x : Binary64) : Bool := x.bits.toNat / Nat.pow 2 63 = 1

/-- A NaN: the largest biased exponent with a nonzero fraction. -/
def isNaN (x : Binary64) : Bool := x.biasedExponent = 2047 && x.fraction != 0

/-- An infinity: the largest biased exponent with a zero fraction. -/
def isInfinite (x : Binary64) : Bool := x.biasedExponent = 2047 && x.fraction = 0

/-- A zero of either sign. -/
def isZero (x : Binary64) : Bool := x.biasedExponent = 0 && x.fraction = 0

/-- The integer mantissa of a finite number: the fraction, with the hidden bit if normal. -/
def mantissa (x : Binary64) : Nat :=
  if x.biasedExponent = 0 then x.fraction else Nat.pow 2 52 + x.fraction

/-- The power of two of a finite number's mantissa: its magnitude is `mantissa · 2^exponent`. -/
def exponent (x : Binary64) : Int :=
  (max x.biasedExponent 1 : Nat) - 1075

/-- The number with a sign, a biased exponent and a fraction. -/
def ofFields (negative : Bool) (biasedExponent fraction : Nat) : Binary64 :=
  ⟨UInt64.ofNat ((if negative then Nat.pow 2 63 else 0) +
    biasedExponent % Nat.pow 2 11 * Nat.pow 2 52 + fraction % Nat.pow 2 52)⟩

/-- Positive zero. -/
def zero : Binary64 := ⟨0⟩

/-- Positive infinity. -/
def infinity : Binary64 := ofFields false 2047 0

/-- The quiet NaN with the sign bit clear and only the top fraction bit set. -/
def nan : Binary64 := ofFields false 2047 (Nat.pow 2 51)

/-- The same number with the sign bit flipped. -/
def neg (x : Binary64) : Binary64 := ⟨x.bits ^^^ 0x8000000000000000⟩

/-- The bit pattern as sixteen lowercase hexadecimal digits. -/
def hex (x : Binary64) : String :=
  let digits := Nat.toDigits 16 x.bits.toNat
  String.ofList (List.replicate (16 - digits.length) '0' ++ digits)

end Binary64

end ImpFront
