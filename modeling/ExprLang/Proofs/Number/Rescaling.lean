import ExprLang.Proofs.Number.Nearest
import ExprLang.Number.Decimal.Double

/-!
# The doubles that have a decimal

A double has a decimal if there is room for its whole part, whatever its fraction.  The fives that its
fraction is rewritten with never let the coefficient grow beyond 96 bits, and each of them takes the power of ten one
step up at most, so that it ends below the point; then places are dropped until there are no more than
a decimal has.

## Main definitions

* `Decimal.Rescaling.Placed` — a rescaling that is the coefficient and the scale of a decimal.

## Main results

* `Decimal.isSome_ofDouble?_iff` — **a double has a decimal if it is less than `2 ^ 96`**.
-/

namespace ExprLang

/-! ### Large doubles -/

namespace Double

variable {x : Float}

theorem magnitude_of_nonneg (h : 0 ≤ exponent x) :
    magnitude x = (significand x * 2 ^ (exponent x).toNat : ℕ) := by
  obtain ⟨q, hq⟩ := Int.eq_ofNat_of_zero_le h
  rw [magnitude, hq, zpow_natCast, Int.toNat_natCast]
  push_cast
  rfl

/-- A double that needs more than 96 bits has a large exponent. -/
theorem le_exponent_of_le_magnitude (h : 2 ^ 96 ≤ magnitude x) : 44 ≤ exponent x := by
  by_contra hlt
  have hsignificand : (significand x : ℚ) < 2 ^ 53 := by exact_mod_cast significand_lt x
  have hpower : (2 : ℚ) ^ exponent x ≤ 2 ^ (43 : ℤ) := zpow_le_zpow_right₀ (by norm_num) (by omega)
  have hmagnitude : magnitude x < 2 ^ 96 :=
    calc magnitude x < 2 ^ 53 * 2 ^ exponent x := mul_lt_mul_of_pos_right hsignificand (by positivity)
      _ ≤ 2 ^ 53 * 2 ^ (43 : ℤ) := mul_le_mul_of_nonneg_left hpower (by positivity)
      _ = 2 ^ 96 := by norm_num
  exact absurd h (not_le.mpr hmagnitude)

/-- What is not finite counts as large. -/
theorem le_magnitude_of_not_isFinite (h : isFinite x = false) : 2 ^ 96 ≤ magnitude x := by
  have hbits : exponentBits x = 2047 := by simpa [isFinite] using h
  have hexponent : 44 ≤ exponent x := by
    rw [exponent, hbits]
    norm_num
  have hsignificand : 2 ^ 52 ≤ significand x := by
    rw [significand, if_neg (by omega)]
    exact Nat.le_add_left _ _
  have hle : 2 ^ 96 ≤ significand x * 2 ^ (exponent x).toNat :=
    calc 2 ^ 96 = 2 ^ 52 * 2 ^ 44 := by norm_num
      _ ≤ significand x * 2 ^ (exponent x).toNat :=
        Nat.mul_le_mul hsignificand (Nat.pow_le_pow_right (by norm_num) (by omega))
  rw [magnitude_of_nonneg (by omega)]
  exact_mod_cast hle

end Double

namespace Decimal

/-! ### From powers of two to powers of ten -/

namespace Rescaling

/-- The coefficient and the power of ten are those of a decimal. -/
structure Placed (r : Rescaling) : Prop where
  coefficient_lt : r.coefficient < 2 ^ 96
  ten_le : r.ten ≤ 0
  le_ten : -28 ≤ r.ten

/-- A five more takes the power of ten up by one at most. -/
theorem timesFive_bounds (n : ℕ) {r : Rescaling} (h : r.coefficient < 2 ^ 96) :
    (r.timesFive n).coefficient < 2 ^ 96 ∧ (r.timesFive n).ten ≤ r.ten + n := by
  induction n generalizing r with
  | zero => exact ⟨h, by rw [timesFive]; omega⟩
  | succ n ih =>
    have hhalf := ih (r := ⟨r.coefficient / 2, r.ten + 1⟩) (by dsimp only; omega)
    rw [timesFive]
    split
    · exact ⟨hhalf.1, hhalf.2.trans (by dsimp only; omega)⟩
    · split
      · next hroom =>
        have hfive := ih (r := ⟨r.coefficient * 5, r.ten⟩) hroom
        exact ⟨hfive.1, hfive.2.trans (by dsimp only; omega)⟩
      · exact ⟨hhalf.1, hhalf.2.trans (by dsimp only; omega)⟩

theorem dropDigit_le (n : ℕ) : dropDigit n ≤ n := by
  unfold dropDigit
  split <;> omega

/-- Enough places are dropped for the rest to be those of a decimal. -/
theorem placed_dropPlaces (n : ℕ) {r : Rescaling} (h : r.coefficient < 2 ^ 96) (hle : r.ten + n ≤ 0)
    (hge : -28 ≤ r.ten + n) : (r.dropPlaces n).Placed := by
  induction n generalizing r with
  | zero =>
    rw [dropPlaces]
    exact ⟨h, by simpa using hle, by simpa using hge⟩
  | succ n ih =>
    rw [dropPlaces]
    split
    · exact ⟨by norm_num, le_rfl, by norm_num⟩
    · exact ih ((dropDigit_le _).trans_lt h) (by dsimp only; omega) (by dsimp only; omega)

/-- A number with places has one to give, if its coefficient does not grow for that. -/
theorem Placed.drop {r : Rescaling} (h : r.Placed) (hten : r.ten < 0) {n : ℕ}
    (hn : n ≤ r.coefficient) : (⟨n, r.ten + 1⟩ : Rescaling).Placed :=
  ⟨hn.trans_lt h.coefficient_lt, Int.add_one_le_of_lt hten,
    h.le_ten.trans (Int.le_add_of_nonneg_right (by decide))⟩

theorem Placed.limitDigits (n : ℕ) {r : Rescaling} (h : r.Placed) : (r.limitDigits n).Placed := by
  induction n generalizing r with
  | zero => exact h
  | succ n ih =>
    rw [Rescaling.limitDigits]
    split
    · next hlong => exact ih (h.drop hlong.1 (dropDigit_le _))
    · exact h

theorem Placed.stripPlaces (n : ℕ) {r : Rescaling} (h : r.Placed) : (r.stripPlaces n).Placed := by
  induction n generalizing r with
  | zero => exact h
  | succ n ih =>
    rw [Rescaling.stripPlaces]
    split
    · next hzero => exact ih (h.drop hzero.1 (Nat.div_le_self _ _))
    · exact h

/-- A whole number has no places to drop. -/
theorem dropPlaces_limitDigits_stripPlaces_of_whole (n : ℕ) :
    (((⟨n, 0⟩ : Rescaling).dropPlaces 0).limitDigits maxScale).stripPlaces maxScale = ⟨n, 0⟩ := by
  simp [dropPlaces, Rescaling.limitDigits, Rescaling.stripPlaces, maxScale]

end Rescaling

/-! ### Doubles -/

theorem isSome_ofParts?_iff {negative : Bool} {coefficient scale : ℕ} :
    (ofParts? negative coefficient scale).isSome ↔ coefficient < 2 ^ 96 ∧ scale ≤ 28 := by
  unfold ofParts?
  split
  · next h => exact iff_of_true rfl h
  · next h => exact iff_of_false Bool.false_ne_true h

variable {x : Float}

/-- A double with a negative exponent ends up as a decimal. -/
theorem placed_of_exponent_neg (hq : Double.exponent x < 0) :
    let r := Rescaling.timesFive (-Double.exponent x).toNat
      ⟨Double.significand x, Double.exponent x⟩
    (r.dropPlaces (-(maxScale : ℤ) - r.ten).toNat).Placed := by
  intro r
  have hsignificand := Double.significand_lt x
  obtain ⟨hcoefficient, hten⟩ : r.coefficient < 2 ^ 96 ∧
      r.ten ≤ Double.exponent x + (-Double.exponent x).toNat :=
    Rescaling.timesFive_bounds _ (by dsimp only; omega)
  have hmax : maxScale = 28 := rfl
  exact Rescaling.placed_dropPlaces _ hcoefficient (by omega) (by omega)

/-- **A double has a decimal if its magnitude is less than `2 ^ 96`.** -/
theorem isSome_ofDouble?_iff : (ofDouble? x).isSome ↔ Double.magnitude x < 2 ^ 96 := by
  unfold ofDouble?
  split
  · next hfinite =>
    have hlarge := Double.le_magnitude_of_not_isFinite (by simpa using hfinite)
    exact iff_of_false nofun (not_lt.mpr hlarge)
  · split
    · next hzero =>
      simp only [Double.isZero, Bool.and_eq_true, beq_iff_eq] at hzero
      have hsignificand : Double.significand x = 0 := by rw [Double.significand, if_pos hzero.1, hzero.2]
      exact iff_of_true rfl (by simp [Double.magnitude, hsignificand])
    · dsimp only
      rw [Option.isSome_map, isSome_ofParts?_iff]
      split
      -- a whole double: its coefficient is its magnitude
      · next hq =>
        have hnone : (-(maxScale : ℤ) - 0).toNat = 0 := rfl
        rw [hnone, Rescaling.dropPlaces_limitDigits_stripPlaces_of_whole, Double.magnitude_of_nonneg hq]
        exact ⟨fun h => by exact_mod_cast h.1, fun h => ⟨by exact_mod_cast h, Nat.zero_le 28⟩⟩
      -- a double with a fraction is below 2 ^ 53, and rounding keeps it in range
      · next hq =>
        have hsmall : Double.magnitude x < 2 ^ 96 := by
          by_contra hle
          have hexponent := Double.le_exponent_of_le_magnitude (not_lt.mp hle)
          omega
        have hplaced := ((placed_of_exponent_neg (not_le.mp hq)).limitDigits maxScale).stripPlaces maxScale
        have hplaces := hplaced.le_ten
        exact iff_of_true ⟨hplaced.coefficient_lt, by omega⟩ hsmall

end Decimal
end ExprLang
