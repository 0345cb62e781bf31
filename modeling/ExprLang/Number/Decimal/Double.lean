import ExprLang.Number.Double

/-!
# Decimals and doubles

A decimal becomes a double through its whole part and its places, which are rounded one after the
other.  A double with a fraction becomes a decimal by rewriting its powers of two in powers of ten within
96 bits, and keeps no more digits than a double is good for.

## Main definitions

* `Decimal.toDouble` — the double for a decimal.
* `Decimal.ofDouble?` — the decimal for a double, if it is finite and not too large.

## References

`SPEC_FULL.md`, 10.2; the conversions that the reference's `from_value` and `to_json` use between
decimals and doubles.
-/

namespace ExprLang

open scoped CorePower
namespace Decimal

/-- The double for a decimal's magnitude.  Whole part and places are rounded to doubles apart, and
their sum is rounded to the decimal's own places. -/
def magnitudeToDouble (d : Decimal) : Float :=
  let unit := 10 ^ d.scale
  let whole := Double.ofNat (d.coefficient / unit)
  if d.scale = 0 then whole
  else
    let places := Double.ofNat (d.coefficient % unit) / Double.ofNat unit
    if Double.isZero places then whole
    else
      let power := Double.powBySquaring 10.0 d.scale
      Double.roundWhole ((whole + places) * power) / power

/-- The double for a decimal.  A zero keeps its sign only if it has places. -/
def toDouble (d : Decimal) : Float :=
  if d.negative && !(d.isZero && d.scale == 0) then -d.magnitudeToDouble else d.magnitudeToDouble

/-! ### From doubles -/

/-- A number on its way from a power of two to a power of ten.  Because `2 ^ q = 10 ^ q * 5 ^ -q`, it
starts as `significand * 10 ^ q` with `-q` fives still to be multiplied into the coefficient. -/
structure Rescaling where
  coefficient : Nat
  ten : Int

/-- Multiplies `n` further fives into the coefficient: a factor of two is traded for one while there
is one; else the coefficient is multiplied, or halved where it has no room, which loses its
lowest bit. -/
def Rescaling.timesFive : Nat → Rescaling → Rescaling
  | 0, r => r
  | n + 1, r =>
    if r.coefficient % 2 = 0 then timesFive n ⟨r.coefficient / 2, r.ten + 1⟩
    else if r.coefficient * 5 < coefficientBound then timesFive n ⟨r.coefficient * 5, r.ten⟩
    else timesFive n ⟨r.coefficient / 2, r.ten + 1⟩

/-- Drops the last digit, rounding a half upwards. -/
def dropDigit (n : Nat) : Nat := n / 10 + if 5 ≤ n % 10 then 1 else 0

/-- Drops `n` places that lie beyond the largest scale, each rounded a half upwards; a coefficient
of which nothing is left ends as zero without places. -/
def Rescaling.dropPlaces : Nat → Rescaling → Rescaling
  | 0, r => r
  | n + 1, r =>
    if r.coefficient / 10 = 0 then ⟨0, 0⟩
    else dropPlaces n ⟨dropDigit r.coefficient, r.ten + 1⟩

/-- Drops places, at most `n`, while the coefficient has more digits than a double is good for. -/
def Rescaling.limitDigits : Nat → Rescaling → Rescaling
  | 0, r => r
  | n + 1, r =>
    if r.ten < 0 ∧ 2 ^ (52 : Nat) ≤ r.coefficient then
      limitDigits n ⟨dropDigit r.coefficient, r.ten + 1⟩
    else r

/-- Takes zeros, at most `n`, off the end of the places. -/
def Rescaling.stripPlaces : Nat → Rescaling → Rescaling
  | 0, r => r
  | n + 1, r =>
    if r.ten < 0 ∧ r.coefficient % 10 = 0 then stripPlaces n ⟨r.coefficient / 10, r.ten + 1⟩
    else r

/-- The decimal for a double.  There is none for the values that are not finite and for those beyond
96 bits; zero keeps its sign. -/
def ofDouble? (x : Float) : Option Decimal :=
  if !Double.isFinite x then none
  else if Double.isZero x then some (zero.withSign (Double.isNegative x))
  else
    let q := Double.exponent x
    -- a whole number goes over as it is
    let r : Rescaling :=
      if 0 ≤ q then ⟨Double.significand x * 2 ^ q.toNat, 0⟩
      else Rescaling.timesFive (-q).toNat ⟨Double.significand x, q⟩
    let r := r.dropPlaces (-(maxScale : Int) - r.ten).toNat
    let r := (r.limitDigits maxScale).stripPlaces maxScale
    (ofParts? false r.coefficient (-r.ten).toNat).map fun d => d.withSign (Double.isNegative x)

end Decimal
end ExprLang
