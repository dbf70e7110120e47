import ImpFront.Number.Rounding

/-!
# Shortest decimals

The shortest decimal of a finite positive binary64 number `m · 2^q` is the decimal with the
fewest significant digits that reads back as the same number, and of those the nearest to
it; of two equally near, the larger.

The numbers that read back as `m · 2^q` form an interval around it: half the gap to each
neighbour on either side, with both ends included exactly when `m` is even (a tie rounds to
the even mantissa). At the mantissa `2^52` the interval is taken half as wide below, where
the next smaller exponent begins; this holds also for the smallest normal number, where it
only narrows the interval. Grids of
decimals `k · 10^j` are tried from coarse to fine; on the first grid that meets the
interval, the point of the grid nearest to the number lies in it, and is the answer.

Everything is compared in natural numbers: in units of `2^(q-2)` the number is `4m`, the
interval runs from `4m - 2` (`4m - 1` at the mantissa `2^52`) to `4m + 2`, and a grid point `k · 10^j` is compared
with `N` units as `k · A` with `N · B` (`gridScale`).
-/

namespace ImpFront

namespace Binary64

/--
The factors `A` and `B` such that `k · 10^j ≤ N · 2^(q-2)` exactly when `k · A ≤ N · B`,
and likewise for the other comparisons.
-/
def gridScale (q j : Int) : Nat × Nat :=
  (Nat.pow 10 j.toNat * Nat.pow 2 (2 - q).toNat, Nat.pow 10 (-j).toNat * Nat.pow 2 (q - 2).toNat)

/-- The decimal exponent of `m · 2^q`: the `x` with `10^x ≤ m · 2^q < 10^(x+1)`, for `m > 0`. -/
def decimalExponent (m : Nat) (q : Int) : Int :=
  if 0 ≤ q then (decimalLength (m * Nat.pow 2 q.toNat) : Int) - 1
  else (decimalLength (m * Nat.pow 5 (-q).toNat) : Int) - 1 + q

/--
The point of the grid `10^j` nearest to `m · 2^q` among those that read back as it, if the
grid has one; of two equally near points, the larger.
-/
def gridPoint? (m : Nat) (q j : Int) : Option Nat :=
  let v := 4 * m
  let high := v + 2
  let low := if m = Nat.pow 2 52 then v - 1 else v - 2
  let closed := m % 2 = 0
  let (a, b) := gridScale q j
  let kLo := if closed then (low * b + a - 1) / a else low * b / a + 1
  let kHi := if closed then high * b / a else (high * b - 1) / a
  if kLo ≤ kHi then
    let k0 := v * b / a
    let r := v * b % a
    if 2 * r < a then some (if kLo ≤ k0 then k0 else k0 + 1)
    else some (if k0 + 1 ≤ kHi then k0 + 1 else k0)
  else none

/-- Removes trailing zeros from `k · 10^j`, raising the exponent. -/
def stripZeros (k : Nat) (j : Int) : Nat × Int :=
  if h : k ≠ 0 ∧ k % 10 = 0 then stripZeros (k / 10) (j + 1) else (k, j)
termination_by k
decreasing_by exact Nat.div_lt_self (Nat.pos_of_ne_zero h.1) (by decide)

/--
The shortest decimal `k · 10^j` of `m · 2^q`, for `m > 0`, with no trailing zeros in `k`.
Grids from `10^(x+1)` down to `10^(x-17)` are tried, `x` being the decimal exponent: every
number has a decimal of seventeen significant digits that reads back.
-/
def shortest (m : Nat) (q : Int) : Nat × Int :=
  let x := decimalExponent m q
  let grids := (List.range 19).map fun (i : Nat) => x + 1 - (i : Int)
  match grids.findSome? fun j => (gridPoint? m q j).map fun k => (k, j) with
  | some (k, j) => stripZeros k j
  | none => stripZeros (4 * m * (gridScale q (x - 17)).2 / (gridScale q (x - 17)).1) (x - 17)

end Binary64

end ImpFront
