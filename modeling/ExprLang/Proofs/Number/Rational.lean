import Mathlib.Data.Rat.Cast.Order
import Mathlib.Tactic.Positivity
import ExprLang.Number.Decimal

/-!
# The number that a decimal stands for

Decimals are compared by whole numbers, their coefficients brought over a common denominator.  What
this finds is the order of the rational numbers that the decimals stand for, so comparison does
not depend on scales, nor on the sign of a zero.

## Main definitions

* `Decimal.toRat` — the number.

## Main results

* `Decimal.compare_eq`, `Decimal.sameValue_iff` — the comparisons are those of the numbers.
* `Decimal.toRat_ofInteger` — an integer is taken over unchanged.
-/

namespace ExprLang
namespace Decimal

/-- The number that a decimal stands for. -/
def toRat (d : Decimal) : ℚ := d.signed / 10 ^ d.scale

/-- What is compared is the number, multiplied by a power of ten. -/
theorem cast_scaledBy (d : Decimal) (k : ℕ) :
    (d.scaledBy k : ℚ) = d.toRat * 10 ^ (d.scale + k) := by
  have hscale : (10 : ℚ) ^ d.scale ≠ 0 := by positivity
  rw [toRat, scaledBy, pow_add, ← mul_assoc, div_mul_cancel₀ _ hscale]
  push_cast
  rfl

/-- The common denominator is positive, so it does not change the order. -/
theorem compare_eq (a b : Decimal) : a.compare b = Ord.compare a.toRat b.toRat := by
  have hdenominator : (0 : ℚ) < 10 ^ (a.scale + b.scale) := by positivity
  calc a.compare b
      = cmp (a.scaledBy b.scale) (b.scaledBy a.scale) := (cmp_eq_compare _ _).symm
    _ = cmp (a.scaledBy b.scale : ℚ) (b.scaledBy a.scale) :=
        (Int.cast_strictMono.cmp_map_eq _ _).symm
    _ = cmp (a.toRat * 10 ^ (a.scale + b.scale)) (b.toRat * 10 ^ (a.scale + b.scale)) := by
        rw [cast_scaledBy, cast_scaledBy, Nat.add_comm b.scale]
    _ = cmp a.toRat b.toRat := cmp_mul_pos_right hdenominator _ _
    _ = Ord.compare a.toRat b.toRat := cmp_eq_compare _ _

theorem sameValue_iff {a b : Decimal} : a.sameValue b ↔ a.toRat = b.toRat :=
  calc a.sameValue b = true
      ↔ a.scaledBy b.scale = b.scaledBy a.scale := beq_iff_eq
    _ ↔ a.compare b = .eq := compare_eq_iff_eq.symm
    _ ↔ a.toRat = b.toRat := by rw [compare_eq, compare_eq_iff_eq]

@[simp] theorem signed_ofInteger (n : Int64) : (ofInteger n).signed = n.toInt := by
  simp only [signed, ofInteger, decide_eq_true_eq]
  split <;> omega

@[simp] theorem toRat_ofInteger (n : Int64) : (ofInteger n).toRat = n.toInt := by
  rw [toRat, signed_ofInteger, show (ofInteger n).scale = 0 from rfl, pow_zero, div_one]

end Decimal
end ExprLang
