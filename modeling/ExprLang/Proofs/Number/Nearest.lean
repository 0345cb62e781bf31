import Mathlib.Algebra.Order.Field.Power
import Mathlib.Data.Rat.Cast.Order
import Mathlib.Tactic.Linarith
import Mathlib.Tactic.Positivity
import Mathlib.Tactic.Ring
import ExprLang.Proofs.Number.Bits

/-!
# The double nearest to a whole number

A whole number becomes a double by rounding to a multiple of a power of two, so large that 53 bits are
enough.  No double is nearer: those with a larger power are among the multiples that there was the choice
of, and those with a smaller one do not come up to the number.

## Main definitions

* `Double.magnitude`, `Double.toRat` — the number that a finite double is, without its sign and with it.

## Main results

* `abs_roundHalfEven_sub_le` — rounding finds the nearest multiple.
* `Double.ofNat_nearest` — **the double of a whole number is finite, and no other is nearer**.
-/

namespace ExprLang

/-! ### Multiples -/

theorem le_roundHalfEven (n d : ℕ) : n / d ≤ roundHalfEven n d ∧ roundHalfEven n d ≤ n / d + 1 := by
  unfold roundHalfEven
  dsimp only
  split <;> omega

/-- The multiple that is rounded to lies half a step away at most. -/
theorem two_mul_abs_roundHalfEven_sub_le {n d : ℕ} (hd : 0 < d) :
    2 * |(roundHalfEven n d : ℤ) * d - n| ≤ d := by
  have hmod : n % d < d := Nat.mod_lt n hd
  have hn : (n : ℤ) = (n / d : ℕ) * d + (n % d : ℕ) := by
    exact_mod_cast (Nat.div_add_mod' n d).symm
  -- rounded up the remainder is at least the half, rounded down at most
  have hround : roundHalfEven n d = n / d + 1 ∧ d ≤ 2 * (n % d) ∨
      roundHalfEven n d = n / d ∧ 2 * (n % d) ≤ d := by
    unfold roundHalfEven
    dsimp only
    split
    · next h =>
      simp only [Bool.or_eq_true, Bool.and_eq_true, decide_eq_true_eq, beq_iff_eq] at h
      exact .inl ⟨rfl, by omega⟩
    · next h =>
      simp only [Bool.or_eq_true, decide_eq_true_eq, not_or] at h
      exact .inr ⟨rfl, by omega⟩
  rcases hround with ⟨heq, hr⟩ | ⟨heq, hr⟩
  · have hup : ((n / d + 1 : ℕ) : ℤ) * d - n = d - (n % d : ℕ) := by
      rw [hn]
      push_cast
      ring
    rw [heq, hup, abs_of_nonneg (by omega)]
    omega
  · have hdown : ((n / d : ℕ) : ℤ) * d - n = -(n % d : ℕ) := by
      rw [hn]
      ring
    rw [heq, hdown, abs_neg, abs_of_nonneg (by omega)]
    omega

/-- No multiple is nearer than the one that is rounded to. -/
theorem abs_roundHalfEven_sub_le {n d : ℕ} (hd : 0 < d) (j : ℤ) :
    |(roundHalfEven n d : ℤ) * d - n| ≤ |j * d - n| := by
  have hhalf := two_mul_abs_roundHalfEven_sub_le (n := n) hd
  generalize (roundHalfEven n d : ℤ) = m at hhalf
  rcases eq_or_ne j m with rfl | hne
  · exact le_rfl
  · -- other multiples are a whole step away from this one
    have hstep : (d : ℤ) ≤ |j * d - m * d| := by
      rw [← sub_mul, abs_mul, Nat.abs_cast]
      exact le_mul_of_one_le_left (by omega) (Int.one_le_abs (sub_ne_zero.mpr hne))
    have htriangle : |j * d - m * d| ≤ |j * d - n| + |m * d - n| :=
      calc |j * d - m * d| = |(j * d - n) - (m * d - n)| := by rw [sub_sub_sub_cancel_right]
        _ ≤ |j * d - n| + |m * d - n| := abs_sub _ _
    omega

namespace Double

/-- The magnitude of a finite double. -/
def magnitude (x : Float) : ℚ := significand x * 2 ^ exponent x

/-- The number that a finite double is. -/
def toRat (x : Float) : ℚ := if isNegative x then -magnitude x else magnitude x

/-! ### Parts -/

theorem toNat_toBits_ofBits {n : ℕ} (hn : n < 2 ^ 64) (hfinite : n / 2 ^ 52 % 2 ^ 11 ≠ 2047) :
    (Float.ofBits (.ofNat n)).toBits.toNat = n := by
  have hvalue : (UInt64.ofNat n).toNat = n := UInt64.toNat_ofNat_of_lt' hn
  rw [toBits_ofBits (by rwa [hvalue]), hvalue]

/-- A significand of full length above an exponent, or the power of two next to them. -/
theorem parts_ofBits {m t : ℕ} (hlow : 2 ^ 52 ≤ m) (hhigh : m ≤ 2 ^ 53) (ht : t ≤ 2044) :
    let x := Float.ofBits (.ofNat (t * 2 ^ 52 + m))
    isFinite x ∧ isNegative x = false ∧ magnitude x = m * 2 ^ ((t : ℤ) - 1074) := by
  intro x
  have hbits : x.toBits.toNat = t * 2 ^ 52 + m := toNat_toBits_ofBits (by omega) (by omega)
  refine ⟨?_, ?_, ?_⟩
  · simp only [isFinite, exponentBits, hbits, bne_iff_ne]
    omega
  · simp only [isNegative, hbits, beq_eq_false_iff_ne]
    omega
  · unfold magnitude significand exponent exponentBits fractionBits
    rw [hbits]
    rcases Nat.lt_or_eq_of_le hhigh with hlt | rfl
    · have hexponent : (t * 2 ^ 52 + m) / 2 ^ 52 % 2 ^ 11 = t + 1 := by omega
      have hfraction : (t * 2 ^ 52 + m) % 2 ^ 52 + 2 ^ 52 = m := by omega
      have hmax : ((max (t + 1) 1 : ℕ) : ℤ) - 1075 = t - 1074 := by omega
      rw [hexponent, if_neg (by omega), hfraction, hmax]
    · -- the significand has grown by a bit, which the exponent takes over
      have hexponent : (t * 2 ^ 52 + 2 ^ 53) / 2 ^ 52 % 2 ^ 11 = t + 2 := by omega
      have hfraction : (t * 2 ^ 52 + 2 ^ 53) % 2 ^ 52 + 2 ^ 52 = 2 ^ 52 := by omega
      have hmax : ((max (t + 2) 1 : ℕ) : ℤ) - 1075 = (t - 1074) + 1 := by omega
      rw [hexponent, if_neg (by omega), hfraction, hmax, zpow_add_one₀ (by norm_num)]
      push_cast
      ring

/-! ### Rounding -/

/-- The double of a whole number, as the multiple of a power of two that it is rounded to. -/
theorem ofNat_eq {n : ℕ} (h0 : n ≠ 0) (hlog : n.log2 < 1023) :
    let q : ℤ := n.log2 - 52
    let m := roundHalfEven (n * 2 ^ (-q).toNat) (2 ^ q.toNat)
    2 ^ 52 ≤ m ∧ m ≤ 2 ^ 53 ∧ ofNat n = Float.ofBits (.ofNat ((q + 1074).toNat * 2 ^ 52 + m)) := by
  intro q m
  have hlow : 2 ^ n.log2 ≤ n := Nat.log2_self_le h0
  have hhigh : n < 2 ^ (n.log2 + 1) := Nat.lt_log2_self
  have hround : 2 ^ 52 ≤ m ∧ m ≤ 2 ^ 53 := by
    obtain ⟨hfloor, hceil⟩ := le_roundHalfEven (n * 2 ^ (-q).toNat) (2 ^ q.toNat)
    have hquotient : 2 ^ 52 ≤ n * 2 ^ (-q).toNat / 2 ^ q.toNat ∧
        n * 2 ^ (-q).toNat / 2 ^ q.toNat < 2 ^ 53 := by
      rw [Nat.le_div_iff_mul_le (by positivity), Nat.div_lt_iff_lt_mul (by positivity)]
      -- the number is shifted down or up, so that its leading bit comes to stand at place 52
      rcases Nat.le_total 52 n.log2 with hle | hle
      · have hneg : (-q).toNat = 0 := by omega
        have hsum : 52 + q.toNat = n.log2 := by omega
        have hsum' : 53 + q.toNat = n.log2 + 1 := by omega
        rw [hneg, pow_zero, mul_one, ← pow_add, ← pow_add, hsum, hsum']
        exact ⟨hlow, hhigh⟩
      · have hpos : q.toNat = 0 := by omega
        have hsum : n.log2 + (-q).toNat = 52 := by omega
        rw [hpos, pow_zero, mul_one, mul_one, ← hsum, show 53 = n.log2 + 1 + (-q).toNat by omega,
          pow_add, pow_add _ (n.log2 + 1)]
        exact ⟨Nat.mul_le_mul_right _ hlow, Nat.mul_lt_mul_of_pos_right hhigh (by positivity)⟩
    omega
  refine ⟨hround.1, hround.2, ?_⟩
  -- the exponent that is found is that of the number, and neither bound applies
  have hone : Nat.log2 1 = 0 := by decide
  have hk : (-(n.log2 : ℤ)).toNat = 0 := by omega
  have hmax : max ((n.log2 : ℤ) - 52) (-1074) = q := by omega
  have hfits : ¬ 2047 * 2 ^ 52 ≤ (q + 1074).toNat * 2 ^ 52 + m := by omega
  unfold ofNat ofRatio
  simp only [h0, if_false, hone, Nat.cast_zero, sub_zero, hk, pow_zero, mul_one, one_mul,
    Int.toNat_natCast, hlow, if_true, hmax]
  rw [if_neg hfits]
  rw [show signBit false = 0 from rfl, Nat.zero_add]

/-- The multiple that a whole number is rounded to is the nearest one. -/
theorem abs_roundHalfEven_mul_sub_le (n : ℕ) (q j : ℤ) :
    |(roundHalfEven (n * 2 ^ (-q).toNat) (2 ^ q.toNat) : ℚ) * 2 ^ q - n| ≤ |(j : ℚ) * 2 ^ q - n| := by
  have hparts : (2 : ℚ) ^ q * 2 ^ (-q).toNat = 2 ^ q.toNat := by
    rw [← zpow_natCast, ← zpow_natCast, ← zpow_add₀ (by norm_num)]
    congr 1
    omega
  -- both distances are brought to one integer scale, where `roundHalfEven` is nearest
  have hscale : ∀ i : ℤ, |(i : ℚ) * 2 ^ q - n| * 2 ^ (-q).toNat =
      |((i * (2 ^ q.toNat : ℕ) - (n * 2 ^ (-q).toNat : ℕ) : ℤ) : ℚ)| := by
    intro i
    have habs : |(2 : ℚ) ^ (-q).toNat| = 2 ^ (-q).toNat := abs_of_pos (by positivity)
    nth_rewrite 1 [← habs]
    rw [← abs_mul, sub_mul, mul_assoc, hparts]
    push_cast
    rfl
  refine le_of_mul_le_mul_right ?_ (show (0 : ℚ) < 2 ^ (-q).toNat by positivity)
  rw [hscale j, ← Int.cast_natCast (roundHalfEven _ _), hscale, ← Int.cast_abs, ← Int.cast_abs,
    Int.cast_le]
  exact abs_roundHalfEven_sub_le (by positivity) j

theorem significand_lt (x : Float) : significand x < 2 ^ 53 := by
  have hfraction : fractionBits x < 2 ^ 52 := Nat.mod_lt _ (by norm_num)
  unfold significand
  split <;> omega

/-- A double is a multiple of the power of two of its exponent. -/
theorem toRat_eq (x : Float) :
    ∃ s : ℤ, |s| < 2 ^ 53 ∧ toRat x = s * 2 ^ exponent x := by
  have hlt : (significand x : ℤ) < 2 ^ 53 := by exact_mod_cast significand_lt x
  unfold toRat magnitude
  split
  · exact ⟨-significand x, by rwa [abs_neg, Nat.abs_cast], by push_cast; ring⟩
  · exact ⟨significand x, by rwa [Nat.abs_cast], by push_cast; rfl⟩

/-- If a number is rounded to a multiple, and the multiples of full length do not begin above it, then no
double is nearer. -/
theorem abs_sub_le_of_multiples {n m : ℕ} {q : ℤ} (hleast : (2 : ℚ) ^ 52 * 2 ^ q ≤ n)
    (hmultiple : ∀ j : ℤ, |(m : ℚ) * 2 ^ q - n| ≤ |(j : ℚ) * 2 ^ q - n|) (y : Float) :
    |(m : ℚ) * 2 ^ q - n| ≤ |toRat y - n| := by
  obtain ⟨s, hs, hy⟩ := toRat_eq y
  rcases le_or_gt q (exponent y) with hle | hlt
  · -- the other double is a multiple as well
    have hsplit : toRat y = (s * 2 ^ (exponent y - q).toNat : ℤ) * 2 ^ q := by
      rw [hy]
      push_cast
      rw [mul_assoc, ← zpow_natCast, ← zpow_add₀ (by norm_num)]
      congr 2
      omega
    rw [hsplit]
    exact hmultiple _
  · -- the other double does not come up to the least multiple of full length
    have hs' : (s : ℚ) ≤ 2 ^ 53 := by exact_mod_cast (le_abs_self s).trans hs.le
    have hshort : toRat y ≤ 2 ^ 52 * 2 ^ q :=
      calc toRat y = s * 2 ^ exponent y := hy
        _ ≤ 2 ^ 53 * 2 ^ (q - 1) := by
          gcongr
          · norm_num
          · omega
        _ = 2 ^ 52 * 2 ^ q := by
          rw [zpow_sub_one₀ (by norm_num)]
          ring
    calc |(m : ℚ) * 2 ^ q - n| ≤ |((2 ^ 52 : ℤ) : ℚ) * 2 ^ q - n| := hmultiple (2 ^ 52)
      _ = n - 2 ^ 52 * 2 ^ q := by
        rw [Int.cast_pow, Int.cast_ofNat, abs_of_nonpos (by linarith), neg_sub]
      _ ≤ n - toRat y := by linarith
      _ ≤ |toRat y - n| := by
        rw [abs_sub_comm]
        exact le_abs_self _

/-- **The double of a whole number is finite, and no other is nearer.** -/
theorem ofNat_nearest {n : ℕ} (h0 : n ≠ 0) (hlog : n.log2 < 1023) :
    isFinite (ofNat n) ∧ isNegative (ofNat n) = false ∧
      ∀ y, |toRat (ofNat n) - n| ≤ |toRat y - n| := by
  obtain ⟨hlow, hhigh, heq⟩ := ofNat_eq h0 hlog
  obtain ⟨hfinite, hnegative, hmagnitude⟩ :=
    parts_ofBits (t := ((n.log2 : ℤ) - 52 + 1074).toNat) hlow hhigh (by omega)
  have hq : (((n.log2 : ℤ) - 52 + 1074).toNat : ℤ) - 1074 = n.log2 - 52 := by omega
  rw [← heq] at hfinite hnegative hmagnitude
  rw [hq] at hmagnitude
  have hleast : (2 : ℚ) ^ 52 * 2 ^ ((n.log2 : ℤ) - 52) ≤ n := by
    have hpow : (2 : ℚ) ^ n.log2 ≤ n := by exact_mod_cast Nat.log2_self_le h0
    rwa [← zpow_natCast, ← zpow_add₀ (by norm_num), Nat.cast_ofNat, add_sub_cancel, zpow_natCast]
  have hvalue : toRat (ofNat n) = magnitude (ofNat n) := by
    rw [toRat, hnegative, if_neg (by decide)]
  refine ⟨hfinite, hnegative, fun y => ?_⟩
  rw [hvalue, hmagnitude]
  exact abs_sub_le_of_multiples hleast (abs_roundHalfEven_mul_sub_le n _) y

end Double
end ExprLang
