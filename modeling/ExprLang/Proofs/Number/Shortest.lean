import ExprLang.Proofs.Number.Rescaling
import ExprLang.Proofs.Number.Scientific

/-!
# The digits of large doubles

The digits of a double are those of a point in the interval of what rounds to it.  From `2 ^ 96` on there is no
room for such a point among the decimals, so what the double is written as does not read as one.  The
interval of `2 ^ 96` itself begins below it, but the point that is found lies above.

## Main results

* `Double.Interval.holds_of_onGrid`, `Double.Interval.isSome_onGrid` — what is found on a grid, and that
  something is if the grid is fine.
* `Double.exists_shortest` — a large double has digits, twenty-one at most, and they lie in its interval.
* `Double.read?_chars_of_large` — **the written form of a double from `2 ^ 96` on is not read as a
  decimal**.
-/

namespace ExprLang
namespace Double

/-! ### Points of a grid -/

namespace Interval

variable {i : Interval}

theorem le_of_holds {n d : ℕ} (h : i.holds n d) :
    i.low * d ≤ n * i.den ∧ n * i.den ≤ i.high * d := by
  unfold holds at h
  dsimp only at h
  split at h
  all_goals
    simp only [Bool.and_eq_true, decide_eq_true_eq] at h
    omega

theorem holds_of_lt {n d : ℕ} (hlow : i.low * d < n * i.den) (hhigh : n * i.den < i.high * d) :
    i.holds n d := by
  unfold holds
  dsimp only
  split
  all_goals
    simp only [Bool.and_eq_true, decide_eq_true_eq]
    omega

theorem holds_of_onGrid {k : ℤ} {n : ℕ} (h : i.onGrid k = some n) :
    i.holds (n * 10 ^ k.toNat) (10 ^ (-k).toNat) := by
  have hone : ∀ p : ℕ → Bool, ∀ a b : ℕ,
      (if a ≠ 0 && p a then some a else if b ≠ 0 && p b then some b else none) = some n → p n := by
    intro p a b h
    split at h
    · next ha =>
      cases h
      exact (Bool.and_eq_true_iff.mp ha).2
    · rw [Option.ite_none_right_eq_some] at h
      obtain ⟨hb, hn⟩ := h
      cases hn
      exact (Bool.and_eq_true_iff.mp hb).2
  exact hone (fun m => i.holds (m * 10 ^ k.toNat) (10 ^ (-k).toNat)) _ _ h

/-- An interval that reaches half a step to both sides holds a point of the grid. -/
theorem isSome_onGrid {k : ℕ} (hden : 0 < i.den)
    (hlow : 2 * i.low + i.den * 10 ^ k < 2 * i.value)
    (hhigh : 2 * i.value + i.den * 10 ^ k < 2 * i.high) : (i.onGrid k).isSome := by
  have hhalf := two_mul_abs_roundHalfEven_sub_le (n := i.value) (d := i.den * 10 ^ k) (by positivity)
  have hk : (-(k : ℤ)).toNat = 0 := by omega
  unfold onGrid
  simp only [Int.toNat_natCast, hk, pow_zero, mul_one]
  generalize hr : roundHalfEven i.value (i.den * 10 ^ k) = r at hhalf
  have hpoint : r * 10 ^ k * i.den = r * (i.den * 10 ^ k) := by ring
  generalize i.den * 10 ^ k = d at *
  have hbounds : 2 * i.value ≤ 2 * (r * d) + d ∧ 2 * (r * d) ≤ 2 * i.value + d := by
    have hupper := le_abs_self ((r : ℤ) * d - i.value)
    have hlower := neg_abs_le ((r : ℤ) * d - i.value)
    constructor
    · zify
      omega
    · zify
      omega
  have hne : r ≠ 0 := by
    rintro rfl
    omega
  have hholds : i.holds (r * 10 ^ k) 1 := holds_of_lt (by omega) (by omega)
  rw [if_pos (by simp [hne, hholds])]
  rfl

end Interval

/-! ### Digits of large doubles -/

theorem exponent_le (x : Float) : exponent x ≤ 972 := by
  have hbits : exponentBits x < 2 ^ 11 := Nat.mod_lt _ (by norm_num)
  unfold exponent
  omega

/-- The powers of ten that the search for digits starts at: next above the powers of two. -/
theorem pow_top_bounds {b : ℕ} (hlow : 97 ≤ b) (hhigh : b ≤ 1025) :
    2 ^ b ≤ 10 ^ (b * 30103 / 100000 + 1) ∧ 10 ^ (b * 30103 / 100000 + 1) ≤ 11 * 2 ^ b := by
  have hall : ∀ c ∈ List.range 929, 2 ^ (c + 97) ≤ 10 ^ ((c + 97) * 30103 / 100000 + 1) ∧
      10 ^ ((c + 97) * 30103 / 100000 + 1) ≤ 11 * 2 ^ (c + 97) := by decide +kernel
  obtain ⟨c, rfl⟩ := Nat.exists_eq_add_of_le' hlow
  exact hall c (List.mem_range.mpr (by omega))

/-- The digits of the first double that needs more than 96 bits. -/
theorem shortest_of_eq {x : Float} (hexponent : exponent x = 44)
    (hsignificand : significand x = 2 ^ 52) :
    shortest x = ⟨7922816251426434, 13⟩ := by
  have hbits : exponentBits x = 1119 := by
    unfold exponent at hexponent
    omega
  have hfraction : fractionBits x = 0 := by
    rw [significand, if_neg (by omega)] at hsignificand
    omega
  rw [shortest, interval, hexponent, hsignificand, hbits, hfraction]
  decide +kernel

section

variable {x : Float} (hq : 44 ≤ exponent x)

include hq

theorem exponentBits_ne_zero : exponentBits x ≠ 0 := by
  intro h
  rw [exponent, h] at hq
  norm_num at hq

theorem significand_of_large : 2 ^ 52 ≤ significand x ∧ (significand x).log2 = 52 := by
  have hlow : 2 ^ 52 ≤ significand x := by
    rw [significand, if_neg (exponentBits_ne_zero hq)]
    exact Nat.le_add_left _ _
  have hhigh := significand_lt x
  exact ⟨hlow, (Nat.log2_eq_iff (by omega)).mpr ⟨hlow, hhigh⟩⟩

theorem interval_of_large : (interval x).den = 4 ∧
    (interval x).value = 4 * significand x * 2 ^ (exponent x).toNat ∧
    (interval x).high = (4 * significand x + 2) * 2 ^ (exponent x).toNat ∧
    (4 * significand x - 2) * 2 ^ (exponent x).toNat ≤ (interval x).low ∧
    (interval x).low ≤ (4 * significand x - 1) * 2 ^ (exponent x).toNat := by
  have hzero : (-exponent x).toNat = 0 := by omega
  refine ⟨by simp [interval, hzero], rfl, rfl, ?_, ?_⟩
  all_goals
    refine Nat.mul_le_mul_right _ ?_
    split <;> omega

/-- The grid that the search ends with is fine enough. -/
theorem isSome_onGrid_of_large {k : ℕ} (hfine : 2 * 10 ^ k < 2 ^ (exponent x).toNat) :
    ((interval x).onGrid k).isSome := by
  obtain ⟨hm, -⟩ := significand_of_large hq
  obtain ⟨hden, hvalue, hhigh, -, hlow⟩ := interval_of_large hq
  have hbelow : (4 * significand x - 1) * 2 ^ (exponent x).toNat + 2 ^ (exponent x).toNat =
      4 * significand x * 2 ^ (exponent x).toNat := by
    rw [← Nat.succ_mul]
    congr 1
    omega
  refine Interval.isSome_onGrid (by omega) ?_ ?_
  · rw [hden, hvalue]
    omega
  · rw [hden, hvalue, hhigh, Nat.add_mul]
    omega

/-- A point of the interval that is a multiple of a power of ten has no more digits than the power that the
search starts at is larger. -/
theorem le_of_holds_of_large {n k t : ℕ} (h : (interval x).holds (n * 10 ^ k) 1)
    (ht : 2 ^ (53 + (exponent x).toNat) ≤ 10 ^ t) (hk : t ≤ k + 20) : n ≤ 10 ^ 20 := by
  obtain ⟨hden, -, hhigh, -⟩ := interval_of_large hq
  have hm := significand_lt x
  obtain ⟨-, hle⟩ := Interval.le_of_holds h
  rw [hden, hhigh, mul_one] at hle
  have hpoint : n * 10 ^ k * 4 ≤ 10 ^ 20 * 10 ^ k * 4 :=
    calc n * 10 ^ k * 4 ≤ (4 * significand x + 2) * 2 ^ (exponent x).toNat := hle
      _ ≤ (2 ^ 53 * 4) * 2 ^ (exponent x).toNat := Nat.mul_le_mul_right _ (by omega)
      _ = 2 ^ (53 + (exponent x).toNat) * 4 := by rw [pow_add]; ring
      _ ≤ 10 ^ t * 4 := Nat.mul_le_mul_right _ ht
      _ ≤ 10 ^ (20 + k) * 4 :=
        Nat.mul_le_mul_right _ (Nat.pow_le_pow_right (by norm_num) (by omega))
      _ = 10 ^ 20 * 10 ^ k * 4 := by rw [pow_add]
  exact Nat.le_of_mul_le_mul_right (Nat.le_of_mul_le_mul_right hpoint (by norm_num)) (by positivity)

/-- There are at most twenty-one digits, and what they stand for lies in the interval. -/
theorem exists_shortest : ∃ n k : ℕ, shortest x = ⟨n, k⟩ ∧ n ≤ 10 ^ 20 ∧
    (interval x).holds (n * 10 ^ k) 1 := by
  obtain ⟨q, hexponent⟩ := Int.eq_ofNat_of_zero_le (a := exponent x) (by omega)
  have hle := exponent_le x
  obtain ⟨hpow, hpow'⟩ := pow_top_bounds (b := 53 + q) (by omega) (by omega)
  have htop : 30 ≤ (53 + q) * 30103 / 100000 + 1 := by omega
  have htop' : Int.fdiv (((significand x).log2 + exponent x + 1) * 30103) 100000 + 1 =
      ((53 + q) * 30103 / 100000 + 1 : ℕ) := by
    rw [(significand_of_large hq).2, hexponent, Int.fdiv_eq_ediv_of_nonneg _ (by norm_num)]
    omega
  generalize (53 + q) * 30103 / 100000 + 1 = t at *
  -- the search does not come to its end without a result
  have hfine : 2 * 10 ^ (t - 20) < 2 ^ (exponent x).toNat := by
    have hsplit : 10 ^ t = 10 ^ (t - 20) * 10 ^ 20 := by rw [← pow_add]; congr 1; omega
    rw [hexponent, Int.toNat_natCast]
    rw [hsplit, pow_add] at hpow'
    have hpos : 0 < 2 ^ q := by positivity
    omega
  have hlast := isSome_onGrid_of_large hq hfine
  have hsome : ((List.range 21).findSome? fun (j : ℕ) =>
      ((interval x).onGrid ((t : ℤ) - j)).map fun n => (⟨n, (t : ℤ) - j⟩ : Scientific)).isSome := by
    rw [List.findSome?_isSome_iff]
    refine ⟨20, by simp, ?_⟩
    rw [Option.isSome_map]
    rwa [Nat.cast_sub (by omega)] at hlast
  obtain ⟨s, hs⟩ := Option.isSome_iff_exists.mp hsome
  obtain ⟨j, hj, hgrid⟩ := List.exists_of_findSome?_eq_some hs
  obtain ⟨n, hn, rfl⟩ := Option.map_eq_some_iff.mp hgrid
  have hj' := List.mem_range.mp hj
  have hk : (t : ℤ) - j = (t - j : ℕ) := by omega
  have hholds := Interval.holds_of_onGrid hn
  have hzero : (-((t - j : ℕ) : ℤ)).toNat = 0 := by omega
  rw [hk, hzero, pow_zero, Int.toNat_natCast] at hholds
  refine ⟨n, t - j, ?_, le_of_holds_of_large hq (t := t) hholds ?_ (by omega), hholds⟩
  · rw [shortest, htop']
    dsimp only
    rw [hs, hk]
    rfl
  · rwa [hexponent, Int.toNat_natCast]

/-- The digits of a double that needs more than 96 bits stand for a number that does as well. -/
theorem le_shortest_of_large {n k : ℕ} (hshortest : shortest x = ⟨n, k⟩)
    (h : (interval x).holds (n * 10 ^ k) 1) : 2 ^ 96 ≤ n * 10 ^ k := by
  obtain ⟨hm, -⟩ := significand_of_large hq
  obtain ⟨hden, -, -, hlow, -⟩ := interval_of_large hq
  by_cases hfirst : exponent x = 44 ∧ significand x = 2 ^ 52
  · -- the interval of the first one begins below it
    rw [shortest_of_eq hfirst.1 hfirst.2, Scientific.mk.injEq] at hshortest
    obtain ⟨rfl, hk⟩ := hshortest
    obtain rfl : 13 = k := by exact_mod_cast hk
    norm_num
  · have hstart : 2 ^ 98 ≤ (4 * significand x - 2) * 2 ^ (exponent x).toNat := by
      rcases eq_or_lt_of_le hq with heq | hlt
      · have hnext : 2 ^ 52 < significand x :=
          lt_of_le_of_ne hm fun h => hfirst ⟨heq.symm, h.symm⟩
        have hpower : (exponent x).toNat = 44 := by omega
        rw [hpower]
        calc 2 ^ 98 = 2 ^ 54 * 2 ^ 44 := by norm_num
          _ ≤ (4 * significand x - 2) * 2 ^ 44 := Nat.mul_le_mul_right _ (by omega)
      ·
        calc 2 ^ 98 = 2 ^ 53 * 2 ^ 45 := by norm_num
          _ ≤ (4 * significand x - 2) * 2 ^ (exponent x).toNat :=
            Nat.mul_le_mul (by omega) (Nat.pow_le_pow_right (by norm_num) (by omega))
    obtain ⟨hle, -⟩ := Interval.le_of_holds h
    rw [hden, mul_one] at hle
    omega

end

/-- **The written form of a double from `2 ^ 96` on is not read as a decimal.** -/
theorem read?_chars_of_large {x : Float} (h : 2 ^ 96 ≤ magnitude x) :
    Decimal.read? (chars x) = none := by
  have hq := le_exponent_of_le_magnitude h
  obtain ⟨n, k, hshortest, hn, hholds⟩ := exists_shortest hq
  have hle := le_shortest_of_large hq hshortest hholds
  have hn' : n < 2 ^ 96 := hn.trans_lt (by norm_num)
  have hlength : (Nat.toDigits 10 n).length ≤ 21 :=
    (Nat.length_toDigits_le_iff (by norm_num) (by norm_num)).mpr (by omega)
  -- a number as large as this has too many digits to be written without an exponent
  have hlong : 16 < (Nat.toDigits 10 n).length + k := by
    by_contra hshort
    have hpos : 0 < (Nat.toDigits 10 n).length := Nat.length_toDigits_pos
    have hlt : n < 10 ^ (Nat.toDigits 10 n).length :=
      (Nat.length_toDigits_le_iff (by norm_num) hpos).mp le_rfl
    have hsmall : n * 10 ^ k < 2 ^ 96 :=
      calc n * 10 ^ k < 10 ^ (Nat.toDigits 10 n).length * 10 ^ k :=
            Nat.mul_lt_mul_of_pos_right hlt (by positivity)
        _ = 10 ^ ((Nat.toDigits 10 n).length + k) := (pow_add _ _ _).symm
        _ ≤ 10 ^ 16 := Nat.pow_le_pow_right (by norm_num) (by omega)
        _ < 2 ^ 96 := by norm_num
    omega
  have hzero : isZero x = false := by simp [isZero, exponentBits_ne_zero hq]
  have hchars : chars x = Decimal.signChars (isNegative x) ++ (shortest x).chars := by
    rw [chars, hzero]
    cases isNegative x <;> rfl
  -- so the digits are read as a small number, and raising it goes beyond the bound
  rw [hchars, hshortest, Scientific.chars_of_large hn' (by omega) hlong, ← List.append_assoc,
    Decimal.read?_scientific, Option.bind_eq_none_iff]
  intro base hbase
  obtain ⟨hcoefficient, hscale⟩ : base.coefficient = n ∧ base.scale = (Nat.toDigits 10 n).length - 1 := by
    unfold Decimal.ofParts? at hbase
    split at hbase
    · cases hbase
      exact ⟨rfl, rfl⟩
    · cases hbase
  rw [← hscale]
  exact Decimal.raise?_eq_none (hcoefficient ▸ hle)

end Double
end ExprLang
