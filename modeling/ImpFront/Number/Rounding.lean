import ImpFront.Number.Binary64

/-!
# Rounding to the nearest binary64 number

A positive fraction `num / den` is rounded to the nearest binary64 number: the mantissa is
the quotient by the power of two that leaves fifty-three bits (fewer below the normal
range), rounded to the nearest integer with a half going to the even one; a mantissa that
rounds up to `2^53` moves to the next power of two, and a result beyond the largest finite
number is infinity.

All arithmetic is on natural numbers, so the result is exact: `Binary64.ofDecimal d e` is
the correctly rounded value of the decimal `d · 10^e`.
-/

namespace ImpFront

namespace Binary64

/-- Quotient, remainder and divisor of `num / (den · 2^b)`, for a power of two of either sign. -/
def scaledDiv (num den : Nat) (b : Int) : Nat × Nat × Nat :=
  if 0 ≤ b then
    let d := den * Nat.pow 2 b.toNat
    (num / d, num % d, d)
  else
    let n := num * Nat.pow 2 (-b).toNat
    (n / den, n % den, den)

/-- Rounds `q + r / d` to the nearest integer; a half goes to the even neighbour. -/
def roundHalfEven (q r d : Nat) : Nat :=
  if 2 * r > d ∨ (2 * r = d ∧ q % 2 = 1) then q + 1 else q

/--
The binary64 number nearest to the positive fraction `num / den`, ties to the even
mantissa, and infinity past the largest finite number.
-/
def nearest (num den : Nat) : Binary64 :=
  let guess : Int := (Nat.log2 num : Int) - Nat.log2 den - 52
  let b0 := if (scaledDiv num den guess).1 < Nat.pow 2 52 then guess - 1 else guess
  let b := max b0 (-1074)
  let (q, r, d) := scaledDiv num den b
  let m := roundHalfEven q r d
  let (m, b) := if m = Nat.pow 2 53 then (Nat.pow 2 52, b + 1) else (m, b)
  if b > 971 then infinity
  else if m < Nat.pow 2 52 then ofFields false 0 m
  else ofFields false (b + 1075).toNat (m - Nat.pow 2 52)

/-- The number of decimal digits of a natural number; zero has one. -/
def decimalLength (n : Nat) : Nat := (Nat.toDigits 10 n).length

/--
The binary64 number nearest to `d · 10^e`. A decimal below `10^-330` rounds to zero and one
of at least `10^310` to infinity, without computing the power.
-/
def ofDecimal (d : Nat) (e : Int) : Binary64 :=
  let size : Int := decimalLength d + e
  if d = 0 then zero
  else if size > 310 then infinity
  else if size < -330 then zero
  else if 0 ≤ e then nearest (d * Nat.pow 10 e.toNat) 1
  else nearest d (Nat.pow 10 (-e).toNat)

end Binary64

end ImpFront
