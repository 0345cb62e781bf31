import ExprLang.Number.Integer

/-!
# Decimal numbers

A decimal number is a coefficient below `2 ^ 96`, a scale of at most 28 and a sign; it stands for
the coefficient divided by ten to the scale.  The scale is part of the number's written form, so
`1.5` and `1.50` are two decimals of one value.  Zero may carry a minus sign, which negation gives
it, and which counts for nothing but the written form.

## Main definitions

* `Decimal`, `Decimal.ofParts?` — the type, and the decimal of given parts if they fit.
* `Decimal.compare`, `Decimal.sameValue` — order and equality of the values.
* `Decimal.text` — the written form.
* `Decimal.ofInteger`, `Decimal.toInteger?` — to and from the integers.

## References

`SPEC_FULL.md`, 10.1, on values; the decimals of the reference's `Value`.
-/

namespace ExprLang

open scoped CorePower

/-- A signed coefficient of up to 96 bits with up to 28 decimal places. -/
structure Decimal where
  negative : Bool
  coefficient : Nat
  scale : Nat
  coefficient_lt : coefficient < 2 ^ (96 : Nat)
  scale_le : scale ≤ 28
  deriving DecidableEq, Repr

namespace Decimal

/-- The largest number of decimal places. -/
def maxScale : Nat := 28

/-- The bound that every coefficient stays below. -/
def coefficientBound : Nat := 2 ^ (96 : Nat)

/-- The number zero without decimal places. -/
def zero : Decimal := ⟨false, 0, 0, by decide, by decide⟩

instance : Inhabited Decimal := ⟨zero⟩

/-- The decimal of the given parts, if they fit; zero comes out without a sign. -/
def ofParts? (negative : Bool) (coefficient scale : Nat) : Option Decimal :=
  if h : coefficient < 2 ^ (96 : Nat) ∧ scale ≤ 28 then
    some ⟨negative && coefficient != 0, coefficient, scale, h.1, h.2⟩
  else none

def isZero (d : Decimal) : Bool := d.coefficient == 0

/-- The magnitude with the given sign, of zero as well. -/
def withSign (d : Decimal) (negative : Bool) : Decimal := { d with negative := negative }

/-- The other sign, of zero as well. -/
def neg (d : Decimal) : Decimal := d.withSign !d.negative

/-- The coefficient with the sign; the value is this divided by ten to the scale. -/
def signed (d : Decimal) : Int := if d.negative then -(d.coefficient : Int) else d.coefficient

/-- The numerator of the value over the common denominator `10 ^ (d.scale + k)`. -/
def scaledBy (d : Decimal) (k : Nat) : Int := d.signed * 10 ^ k

/-- The order of the values, found over a common denominator. -/
def compare (a b : Decimal) : Ordering := Ord.compare (a.scaledBy b.scale) (b.scaledBy a.scale)

/-- Whether two decimals stand for one value, whatever their scales and the sign of a zero. -/
def sameValue (a b : Decimal) : Bool := a.scaledBy b.scale == b.scaledBy a.scale

/-! ### Integers among the decimals -/

/-- An integer as a decimal without places. -/
def ofInteger (n : Int64) : Decimal where
  negative := n.toInt < 0
  coefficient := n.toInt.natAbs
  scale := 0
  coefficient_lt := by
    have h1 := Int64.le_toInt n
    have h2 := Int64.toInt_lt n
    omega
  scale_le := by decide

/-- Whether the value is a whole number. -/
def isIntegral (d : Decimal) : Bool := d.coefficient % 10 ^ d.scale == 0

/-- The value as an integer, if it is whole and in range. -/
def toInteger? (d : Decimal) : Option Int64 :=
  if d.isIntegral then Integer.ofInt? (d.signed.tdiv (10 ^ d.scale)) else none

/-! ### The written form -/

/-- The digits of a coefficient, with zeros in front so that one digit stands before the point. -/
def digits (coefficient scale : Nat) : List Char :=
  let ds := Nat.toDigits 10 coefficient
  List.replicate (scale + 1 - ds.length) '0' ++ ds

/-- The characters of the written form: sign, whole part, and a point and places if there are any. -/
def chars (d : Decimal) : List Char :=
  let ds := digits d.coefficient d.scale
  let whole := ds.take (ds.length - d.scale)
  let body := if d.scale = 0 then whole else whole ++ '.' :: ds.drop (ds.length - d.scale)
  if d.negative then '-' :: body else body

/-- The written form, which shows every place of the scale. -/
def text (d : Decimal) : String := String.ofList d.chars

@[simp] theorem neg_coefficient (d : Decimal) : d.neg.coefficient = d.coefficient := rfl

@[simp] theorem neg_scale (d : Decimal) : d.neg.scale = d.scale := rfl

theorem signed_neg (d : Decimal) : d.neg.signed = -d.signed := by
  cases hd : d.negative <;> simp [signed, neg, withSign, hd]

end Decimal
end ExprLang
