import Mathlib.Tactic.Ring
import ExprLang.Number.Decimal.Arithmetic
import ExprLang.Proofs.Number.Rational

/-!
# Decimal arithmetic is exact where it can be

A sum, difference or product that some decimal stands for is found, whatever its scale.  It may have
more places at first than a decimal has room for, but then the places that are dropped are zeros: the
least number of them that makes the rest fit is never more than what makes it the decimal that is
there.  A remainder by a divisor of two words at the common scale is always exact.

## Main results

* `Decimal.fit?_exact` — a number that is a decimal is fitted without rounding.
* `Decimal.add?_exact`, `Decimal.sub?_exact`, `Decimal.mul?_exact` — **the operations are exact** if
  the exact result is a decimal.
* `Decimal.rem?_exact` — remainders are exact.
-/

namespace ExprLang

/-- Where nothing is left of a division there is nothing to round. -/
theorem roundHalfEven_of_dvd {n d : ℕ} (hd : 0 < d) (h : d ∣ n) : roundHalfEven n d = n / d := by
  have hrest : n % d = 0 := Nat.mod_eq_zero_of_dvd h
  have hne : (d == 2 * 0) = false := beq_false_of_ne (by omega)
  simp [roundHalfEven, hrest, hd.ne']

namespace Decimal

/-! ### The parts of a decimal -/

/-- A magnitude with a sign. -/
def signedOf (negative : Bool) (n : ℕ) : ℤ := if negative then -n else n

theorem signed_eq (d : Decimal) : d.signed = signedOf d.negative d.coefficient := rfl

theorem natAbs_signedOf (negative : Bool) (n : ℕ) : (signedOf negative n).natAbs = n := by
  cases negative <;> simp [signedOf]

theorem signedOf_natAbs (z : ℤ) : signedOf (z < 0) z.natAbs = z := by
  simp only [signedOf, decide_eq_true_eq]
  split <;> omega

theorem abs_toRat (d : Decimal) : |d.toRat| = d.coefficient / 10 ^ d.scale := by
  have hscale : (0 : ℚ) < 10 ^ d.scale := by positivity
  rw [toRat, abs_div, abs_of_pos hscale, ← Int.cast_abs, Int.abs_eq_natAbs, signed_eq,
    natAbs_signedOf]
  rfl

theorem toRat_eq_zero_of_isZero {d : Decimal} (h : d.isZero) : d.toRat = 0 := by
  have hcoefficient : d.coefficient = 0 := by simpa [isZero] using h
  simp [toRat, signed, hcoefficient]

@[simp] theorem toRat_neg (d : Decimal) : d.neg.toRat = -d.toRat := by
  rw [toRat, toRat, signed_neg, neg_scale]
  push_cast
  ring

theorem signedOf_mul (negative : Bool) (m n : ℕ) :
    signedOf negative (m * n) = signedOf negative m * n := by
  cases negative <;> simp [signedOf]

theorem signedOf_div (negative : Bool) (n : ℕ) (q : ℚ) :
    (signedOf negative n : ℚ) / q = if negative then -(n / q) else n / q := by
  cases negative <;> simp [signedOf, neg_div]

/-- Only the magnitude stays where the sign is given anew. -/
theorem toRat_withSign {d : Decimal} {n scale : ℕ} (h : |d.toRat| = n / 10 ^ scale)
    (negative : Bool) : (d.withSign negative).toRat = signedOf negative n / 10 ^ scale := by
  rw [signedOf_div, ← h, abs_toRat, ← signedOf_div]
  rfl

/-- Parts that fit make a decimal. -/
theorem exists_ofParts? (negative : Bool) {n scale : ℕ} (hn : n < 2 ^ 96) (hscale : scale ≤ 28) :
    ∃ d, ofParts? negative n scale = some d :=
  ⟨_, dif_pos ⟨hn, hscale⟩⟩

theorem toRat_of_ofParts? {negative : Bool} {n scale : ℕ} {d : Decimal}
    (h : ofParts? negative n scale = some d) : d.toRat = signedOf negative n / 10 ^ scale := by
  unfold ofParts? at h
  split at h
  · cases h
    by_cases hzero : n = 0 <;> simp [toRat, signed, signedOf, hzero]
  · cases h

/-! ### Fitting -/

theorem cross_of_abs_toRat {n scale : ℕ} {d : Decimal} (h : |d.toRat| = n / 10 ^ scale) :
    d.coefficient * 10 ^ scale = n * 10 ^ d.scale := by
  rw [abs_toRat, div_eq_div_iff (by positivity) (by positivity)] at h
  exact_mod_cast h

/-- If a decimal has the magnitude, then it is enough to drop zeros to make the rest fit. -/
theorem exists_zeros {n scale : ℕ} {d : Decimal} (h : |d.toRat| = n / 10 ^ scale) :
    ∃ k ≤ scale, 10 ^ k ∣ n ∧ n / 10 ^ k < 2 ^ 96 ∧ scale - k ≤ 28 := by
  have hcross := cross_of_abs_toRat h
  have hbound := d.coefficient_lt
  have hplaces := d.scale_le
  rcases Nat.le_total d.scale scale with hle | hle
  · -- the places that the decimal does not have are zeros
    obtain ⟨k, rfl⟩ := Nat.exists_eq_add_of_le hle
    have hn : n = d.coefficient * 10 ^ k := by
      refine Nat.eq_of_mul_eq_mul_right (Nat.pow_pos (by decide) : 0 < 10 ^ d.scale) ?_
      rw [← hcross, Nat.pow_add]
      ring
    have hdiv : n / 10 ^ k = d.coefficient := by
      rw [hn]
      exact Nat.mul_div_cancel _ (Nat.pow_pos (by decide))
    refine ⟨k, by omega, ⟨d.coefficient, by rw [hn, Nat.mul_comm]⟩, by rwa [hdiv], by omega⟩
  · -- the decimal has zeros of its own behind the last place, so all fits as it is
    obtain ⟨k, hk⟩ := Nat.exists_eq_add_of_le hle
    have hn : d.coefficient = n * 10 ^ k := by
      refine Nat.eq_of_mul_eq_mul_right (Nat.pow_pos (by decide) : 0 < 10 ^ scale) ?_
      rw [hcross, hk, Nat.pow_add]
      ring
    have hle' : n ≤ d.coefficient := by
      rw [hn]
      exact Nat.le_mul_of_pos_right n (Nat.pow_pos (by decide))
    refine ⟨0, Nat.zero_le _, ⟨n, by simp⟩, ?_, by omega⟩
    simp only [Nat.pow_zero, Nat.div_one]
    omega

/-- A number that is a decimal is fitted without rounding. -/
theorem fit?_exact (negative : Bool) {n scale : ℕ} {d : Decimal} (h : |d.toRat| = n / 10 ^ scale) :
    ∃ d', fit? negative n scale = some d' ∧ d'.toRat = signedOf negative n / 10 ^ scale := by
  obtain ⟨k, hk, hdvd, hfits, hplaces⟩ := exists_zeros h
  -- the places dropped in the end are no more than those `k` zeros
  have hrange : List.range (scale + 1) =
      List.range (k + 1) ++ (List.range (scale - k)).map (k + 1 + ·) := by
    rw [← List.range_add]
    congr 1
    omega
  have hround : ∀ j ≤ k, roundHalfEven n (10 ^ j) = n / 10 ^ j := fun j hj =>
    roundHalfEven_of_dvd (Nat.pow_pos (by decide)) ((Nat.pow_dvd_pow 10 hj).trans hdvd)
  have hsome : ((List.range (k + 1)).findSome? fun dropped =>
      ofParts? negative (roundHalfEven n (10 ^ dropped)) (scale - dropped)).isSome := by
    rw [List.isSome_findSome?, List.any_eq_true]
    refine ⟨k, List.mem_range.mpr (Nat.lt_succ_self k), ?_⟩
    obtain ⟨d', hd'⟩ := exists_ofParts? negative hfits hplaces
    rw [hround k (Nat.le_refl k), hd']
    rfl
  obtain ⟨d', hd'⟩ := Option.isSome_iff_exists.mp hsome
  refine ⟨d', by rw [fit?, hrange, List.findSome?_append, hd']; rfl, ?_⟩
  obtain ⟨j, hj, hparts⟩ := List.exists_of_findSome?_eq_some hd'
  have hjk : j ≤ k := Nat.le_of_lt_succ (List.mem_range.mp hj)
  obtain ⟨m, rfl⟩ := (Nat.pow_dvd_pow 10 hjk).trans hdvd
  obtain ⟨i, rfl⟩ := Nat.exists_eq_add_of_le (hjk.trans hk)
  rw [hround j hjk, Nat.mul_div_cancel_left _ (Nat.pow_pos (by decide)),
    Nat.add_sub_cancel_left] at hparts
  rw [toRat_of_ofParts? hparts, Nat.mul_comm, signedOf_mul, pow_add]
  push_cast
  rw [mul_comm ((10 : ℚ) ^ j), mul_div_mul_right _ _ (by positivity)]

/-! ### Sums, differences and products -/

theorem toRat_eq_scaledBy (d : Decimal) (k : ℕ) :
    d.toRat = d.scaledBy k / 10 ^ (d.scale + k) := by
  rw [cast_scaledBy, mul_div_cancel_right₀ _ (by positivity)]

section Exact

variable {a b d : Decimal}

/-- A sum that some decimal stands for is found. -/
theorem add?_exact (h : d.toRat = a.toRat + b.toRat) :
    ∃ d', a.add? b = some d' ∧ d'.toRat = a.toRat + b.toRat := by
  unfold add?
  split
  · rename_i ha
    exact ⟨b, rfl, by rw [toRat_eq_zero_of_isZero ha, zero_add]⟩
  split
  · rename_i hb
    exact ⟨a, rfl, by rw [toRat_eq_zero_of_isZero hb, add_zero]⟩
  · dsimp only
    -- both numbers are brought to the larger scale, where adding is adding whole numbers
    generalize hscale : max a.scale b.scale = scale
    have ha : a.toRat = a.scaledBy (scale - a.scale) / 10 ^ scale := by
      rw [toRat_eq_scaledBy a (scale - a.scale), Nat.add_sub_cancel' (by omega)]
    have hb : b.toRat = b.scaledBy (scale - b.scale) / 10 ^ scale := by
      rw [toRat_eq_scaledBy b (scale - b.scale), Nat.add_sub_cancel' (by omega)]
    generalize a.scaledBy (scale - a.scale) = m at *
    generalize b.scaledBy (scale - b.scale) = n at *
    have hsum : a.toRat + b.toRat = ((m + n : ℤ) : ℚ) / 10 ^ scale := by
      rw [ha, hb, ← add_div]
      push_cast
      rfl
    have habs : |d.toRat| = (m + n).natAbs / 10 ^ scale := by
      rw [h, hsum, abs_div, abs_of_pos (by positivity : (0 : ℚ) < 10 ^ scale), ← Int.cast_abs,
        Int.abs_eq_natAbs]
      rfl
    obtain ⟨d', hd', hrat⟩ := fit?_exact (m + n < 0) habs
    exact ⟨d', hd', by rw [hrat, signedOf_natAbs, hsum]⟩

/-- A difference that some decimal stands for is found. -/
theorem sub?_exact (h : d.toRat = a.toRat - b.toRat) :
    ∃ d', a.sub? b = some d' ∧ d'.toRat = a.toRat - b.toRat := by
  unfold sub?
  split
  · rename_i hb
    rw [toRat_eq_zero_of_isZero hb, sub_zero]
    split
    · rename_i ha
      exact ⟨b, rfl, by rw [toRat_eq_zero_of_isZero ha, toRat_eq_zero_of_isZero hb]⟩
    · exact ⟨a, rfl, rfl⟩
  · rw [sub_eq_add_neg, ← toRat_neg] at h ⊢
    exact add?_exact h

theorem toRat_mul (a b : Decimal) : a.toRat * b.toRat =
    signedOf (a.negative != b.negative) (a.coefficient * b.coefficient) /
      10 ^ (a.scale + b.scale) := by
  have hsigns : signedOf (a.negative != b.negative) (a.coefficient * b.coefficient) =
      a.signed * b.signed := by
    rw [signed_eq, signed_eq]
    cases a.negative <;> cases b.negative <;> simp [signedOf]
  rw [hsigns, toRat, toRat, div_mul_div_comm, pow_add]
  push_cast
  rfl

theorem abs_toRat_mul (a b : Decimal) : |a.toRat * b.toRat| =
    (a.coefficient * b.coefficient : ℕ) / 10 ^ (a.scale + b.scale) := by
  rw [abs_mul, abs_toRat, abs_toRat, div_mul_div_comm, pow_add]
  push_cast
  rfl

/-- A product of two small coefficients that is a decimal does not lie beyond 47 places. -/
theorem scale_le_of_small {n scale : ℕ} (h : |d.toRat| = n / 10 ^ scale) (hpos : 0 < n)
    (hsmall : n < 2 ^ 64) : scale ≤ 47 := by
  have hcross := cross_of_abs_toRat h
  by_contra hlong
  have hcoefficient : 0 < d.coefficient := by
    by_contra hzero
    have hproduct : 0 < n * 10 ^ d.scale := Nat.mul_pos hpos (Nat.pow_pos (by decide))
    rw [← hcross, Nat.eq_zero_of_not_pos hzero, Nat.zero_mul] at hproduct
    exact Nat.lt_irrefl 0 hproduct
  have hlow : 10 ^ 48 ≤ d.coefficient * 10 ^ scale :=
    (Nat.pow_le_pow_right (by decide) (by omega)).trans (Nat.le_mul_of_pos_left _ hcoefficient)
  have hhigh : n * 10 ^ d.scale ≤ n * 10 ^ 28 :=
    Nat.mul_le_mul_left n (Nat.pow_le_pow_right (by decide) d.scale_le)
  omega

/-- A product that some decimal stands for is found. -/
theorem mul?_exact (h : d.toRat = a.toRat * b.toRat) :
    ∃ d', a.mul? b = some d' ∧ d'.toRat = a.toRat * b.toRat := by
  have habs : |d.toRat| = (a.coefficient * b.coefficient : ℕ) / 10 ^ (a.scale + b.scale) := by
    rw [h, abs_toRat_mul]
  unfold mul?
  dsimp only
  split
  · rename_i hzero
    refine ⟨zero, rfl, ?_⟩
    rw [toRat_eq_zero_of_isZero (d := zero) rfl]
    rcases Bool.or_eq_true_iff.mp hzero with ha | hb
    · rw [toRat_eq_zero_of_isZero ha, zero_mul]
    · rw [toRat_eq_zero_of_isZero hb, mul_zero]
  rename_i hzero
  split
  · -- what is taken for zero here has too many places for a decimal
    rename_i hsmall
    simp only [Bool.and_eq_true, decide_eq_true_eq] at hsmall
    obtain ⟨⟨ha, hb⟩, hlong⟩ := hsmall
    have hpos : 0 < a.coefficient * b.coefficient := by
      simp only [isZero, Bool.or_eq_true, beq_iff_eq, not_or] at hzero
      exact Nat.mul_pos (Nat.pos_of_ne_zero hzero.1) (Nat.pos_of_ne_zero hzero.2)
    have hlt : a.coefficient * b.coefficient < 2 ^ 32 * 2 ^ 32 := Nat.mul_lt_mul'' ha hb
    exact absurd (scale_le_of_small habs hpos hlt) (by omega)
  · obtain ⟨d', hd', hrat⟩ := fit?_exact (a.negative != b.negative) habs
    rw [← toRat_mul] at hrat
    rw [hd']
    split
    · exact ⟨d', rfl, hrat⟩
    · refine ⟨d'.withSign (a.negative != b.negative), rfl, ?_⟩
      rw [toRat_withSign (by rw [hrat, abs_toRat_mul]), toRat_mul]

/-! ### Remainders -/

theorem scaledBy_eq (d : Decimal) (k : ℕ) :
    d.scaledBy k = signedOf d.negative (d.coefficient * 10 ^ k) := by
  rw [scaledBy, signed_eq, signedOf_mul]
  push_cast
  rfl

/-- The sign of a remainder is that of the dividend. -/
theorem tmod_signedOf (s t : Bool) (m n : ℕ) :
    (signedOf s m).tmod (signedOf t n) = signedOf s (m % n) := by
  cases s <;> cases t <;> simp [signedOf, Int.tmod_eq_emod_of_nonneg]

/-- A remainder is the exact one of the numerators over the common denominator, if the divisor has no
more than two words there. -/
theorem rem?_exact (hb : b.coefficient ≠ 0)
    (hwords : b.coefficient * 10 ^ (max a.scale b.scale - b.scale) < 2 ^ 64) :
    ∃ d', a.rem? b = some d' ∧
      d'.toRat = ((a.scaledBy (max a.scale b.scale - a.scale)).tmod
        (b.scaledBy (max a.scale b.scale - b.scale)) : ℤ) / 10 ^ max a.scale b.scale := by
  have hzero : ¬ b.isZero := by simpa [isZero] using hb
  have hscale : max a.scale b.scale ≤ 28 := Nat.max_le.mpr ⟨a.scale_le, b.scale_le⟩
  have ha := toRat_eq_scaledBy a (max a.scale b.scale - a.scale)
  rw [Nat.add_sub_cancel' (Nat.le_max_left _ _)] at ha
  have hpos : 0 < b.coefficient * 10 ^ (max a.scale b.scale - b.scale) :=
    Nat.mul_pos (Nat.pos_of_ne_zero hb) (Nat.pow_pos (by decide))
  rw [rem?, if_neg hzero]
  dsimp only
  rw [scaledBy_eq] at ha
  rw [scaledBy_eq, scaledBy_eq, tmod_signedOf]
  generalize max a.scale b.scale = scale at *
  generalize hm : a.coefficient * 10 ^ (scale - a.scale) = m at *
  generalize b.coefficient * 10 ^ (scale - b.scale) = n at *
  split
  · -- the dividend is zero or the divisor
    rename_i hnone
    have hrest : m % n = 0 := by
      rcases Bool.or_eq_true_iff.mp hnone with hdividend | hequal
      · have hcoefficient : a.coefficient = 0 := by simpa [isZero] using hdividend
        rw [← hm, hcoefficient, Nat.zero_mul, Nat.zero_mod]
      · rw [beq_iff_eq.mp hequal, Nat.mod_self]
    exact ⟨zero, rfl, by simp [hrest, signedOf, toRat, signed, zero]⟩
  split
  · -- a dividend that is nearer to zero is what is left of itself
    rename_i hlt
    exact ⟨a, rfl, by rw [ha, Nat.mod_eq_of_lt hlt]⟩
  · have hfits : m % n < 2 ^ 96 := by
      have hlt := Nat.mod_lt m hpos
      omega
    obtain ⟨d', hd'⟩ := exists_ofParts? a.negative hfits hscale
    exact ⟨d', hd', toRat_of_ofParts? hd'⟩

end Exact

end Decimal
end ExprLang
