import Mathlib.Algebra.Group.Nat.Defs
import ExprLang.Number.Double

/-!
# The bits of a double

A double that is made from bits has these bits, unless they are those of a value that is no number.  So
the parts of a double that has been put together are the parts that were put in.

## Main results

* `Double.toBits_ofBits` — **the bits of a finite double are those it was made from**.
-/

namespace ExprLang
namespace Double

open Float.Model Float.Model.UnpackedFloat

/-! ### Three numbers in one -/

theorem toNat_packComponents (s : Sign) (e : BitVec 11) (m : BitVec 52) :
    (packComponents Format.binary64 s e m).toNat =
      s.toBitVec.toNat * 2 ^ 63 + e.toNat * 2 ^ 52 + m.toNat := by
  have hinner : (s.toBitVec ++ e).toNat = s.toBitVec.toNat * 2 ^ 11 + e.toNat := by
    rw [BitVec.toNat_append, ← Nat.shiftLeft_add_eq_or_of_lt e.isLt, Nat.shiftLeft_eq]
  have houter : (packComponents Format.binary64 s e m).toNat =
      (s.toBitVec ++ e).toNat * 2 ^ 52 + m.toNat := by
    rw [packComponents, BitVec.toNat_append, ← Nat.shiftLeft_add_eq_or_of_lt m.isLt, Nat.shiftLeft_eq]
  rw [houter, hinner, Nat.add_mul, Nat.mul_assoc, ← Nat.pow_add]

section

variable (v : BitVec (Format.numBits Format.binary64))

theorem toNat_unpackMantissa : (unpackMantissa v).toNat = v.toNat % 2 ^ 52 := by
  simp [unpackMantissa]

theorem toNat_unpackExponent : (unpackExponent v).toNat = v.toNat / 2 ^ 52 % 2 ^ 11 := by
  simp [unpackExponent, Nat.shiftRight_eq_div_pow]

theorem toNat_unpackSign : (unpackSign v).toNat = v.toNat / 2 ^ 63 := by
  have hlt : v.toNat / 2 ^ 63 < 2 := by
    have hv : v.toNat < 2 ^ 64 := v.isLt
    omega
  unfold unpackSign
  rw [BitVec.toNat_cast, BitVec.extractLsb_toNat, Nat.shiftRight_eq_div_pow]
  exact Nat.mod_eq_of_lt hlt

theorem toBitVec_ofBitVec (b : BitVec 1) : (Sign.ofBitVec b).toBitVec = b := by
  revert b
  decide

/-- What is taken apart is put together again. -/
theorem packComponents_unpack : packComponents Format.binary64 (Sign.ofBitVec (unpackSign v))
    (unpackExponent v) (unpackMantissa v) = v := by
  have hv : v.toNat < 2 ^ 64 := v.isLt
  refine BitVec.eq_of_toNat_eq ?_
  rw [toNat_packComponents, toBitVec_ofBitVec, toNat_unpackSign, toNat_unpackExponent,
    toNat_unpackMantissa]
  omega

end

/-! ### Finite doubles -/

section

variable (s : Sign) {m : Nat} {e : Int} (hm : 0 < m)

/-- A short significand goes with the least exponent. -/
theorem pack_of_log2_lt (hlog : m.log2 < 52) (he : (e + 1023 + 52).toNat + 1 < 2 ^ 11) :
    UnpackedFloat.pack Format.binary64 (.finite s m e hm) =
      packComponents Format.binary64 s 0#_ (BitVec.ofNat _ m) := by
  change (if 2 ^ 11 ≤ (e + 1023 + 52).toNat + 1 then _ else if m.log2 + 1 = 53 then _ else _) = _
  rw [if_neg (by omega), if_neg (by omega)]

/-- A significand of full length leaves its first bit to the exponent. -/
theorem pack_of_log2_eq (hlog : m.log2 = 52) (he : (e + 1023 + 52).toNat + 1 < 2 ^ 11) :
    UnpackedFloat.pack Format.binary64 (.finite s m e hm) =
      packComponents Format.binary64 s (BitVec.ofNat _ (e + 1023 + 52).toNat) (BitVec.ofNat _ m) := by
  change (if 2 ^ 11 ≤ (e + 1023 + 52).toNat + 1 then _ else if m.log2 + 1 = 53 then _ else _) = _
  rw [if_neg (by omega), if_pos (by omega)]
  rfl

end

/-- A finite double is taken apart and put together without loss. -/
theorem pack_unpack {v : BitVec (Format.numBits Format.binary64)}
    (h : v.toNat / 2 ^ 52 % 2 ^ 11 ≠ 2047) :
    UnpackedFloat.pack Format.binary64 (UnpackedFloat.unpack Format.binary64 v) = v := by
  have hparts := packComponents_unpack v
  have hexponent := toNat_unpackExponent v
  have hmantissa : (unpackMantissa v).toNat < 2 ^ 52 := (unpackMantissa v).isLt
  have hfinite : unpackExponent v ≠ -1#_ := fun heq => h (by rw [← hexponent, heq]; rfl)
  have hbias : Format.binary64.exponentBias = 1023 := rfl
  have hwidth : Format.binary64.mantissaBitsWithoutImplicit = 52 := rfl
  unfold UnpackedFloat.unpack
  dsimp only
  rw [if_neg hfinite]
  by_cases hzero : unpackExponent v = 0#_
  · rw [hzero] at hparts
    rw [if_pos hzero]
    by_cases hnone : unpackMantissa v = 0#_
    · rw [hnone] at hparts
      rw [dif_pos hnone]
      exact hparts
    · -- the exponent is the least one, and the significand is short
      have hlog : (unpackMantissa v).toNat.log2 < 52 := by
        rw [Nat.log2_lt (fun h0 => hnone (BitVec.eq_of_toNat_eq h0))]
        exact hmantissa
      have hleast : (unpackExponent v).toNat = 0 := by
        rw [hzero]
        rfl
      rw [dif_neg hnone, pack_of_log2_lt _ _ hlog (by omega), BitVec.ofNat_toNat, BitVec.setWidth_eq]
      exact hparts
  · have hsignificand : (1#1 ++ unpackMantissa v).toNat = 2 ^ 52 + (unpackMantissa v).toNat := by
      rw [BitVec.toNat_append, ← Nat.shiftLeft_add_eq_or_of_lt hmantissa]
      rfl
    have hlog : (1#1 ++ unpackMantissa v).toNat.log2 = 52 := by
      rw [hsignificand, Nat.log2_eq_iff (by omega)]
      omega
    have hbiased : (((unpackExponent v).toNat : Int) - ((Format.binary64.exponentBias : Nat) +
        (Format.binary64.mantissaBitsWithoutImplicit : Nat)) + 1023 + 52).toNat =
        (unpackExponent v).toNat := by omega
    have hlow : BitVec.ofNat 52 (1#1 ++ unpackMantissa v).toNat = unpackMantissa v := by
      refine BitVec.eq_of_toNat_eq ?_
      rw [hsignificand, BitVec.toNat_ofNat]
      omega
    rw [if_neg hzero, pack_of_log2_eq _ _ hlog (by omega), hbiased, hlow, BitVec.ofNat_toNat, BitVec.setWidth_eq]
    exact hparts

/-- **The bits of a finite double are those it was made from.** -/
theorem toBits_ofBits {b : UInt64} (h : b.toNat / 2 ^ 52 % 2 ^ 11 ≠ 2047) :
    (Float.ofBits b).toBits = b := by
  exact congrArg UInt64.ofBitVec (pack_unpack h)

end Double
end ExprLang
