import Mathlib.Data.List.TakeWhile
import ExprLang.Proofs.Number.Arithmetic
import ExprLang.Proofs.Number.Digits

/-!
# Digits that have no room

Digits are read as an integer unless their number is beyond the range, and digits around a point as a
decimal unless their number is too large.  Behind the point digits without room are rounded away, so
there is only one way for places to matter: if the digits before the point are those of the largest
coefficient, then the first place may round it up, and nothing is left to give up a place for.  This is
where the number is at least half a unit above the largest coefficient.

## Main definitions

* `Decimal.TooLarge` — the number of digits around a point is too large for a decimal.

## Main results

* `Integer.read?_eq_none_iff` — digits that are no integer.
* `Decimal.read?_eq_none_iff` — **digits that are no decimal** are those of a number that is too large.
-/

namespace ExprLang

/-- The number of digits has no more places than there are digits. -/
theorem ofDigitChars_lt {ds : List Char} (hdigits : ∀ c ∈ ds, c.isDigit) :
    Nat.ofDigitChars 10 ds 0 < 10 ^ ds.length := by
  induction ds with
  | nil => decide
  | cons d ds ih =>
    obtain ⟨hd, hds⟩ := List.forall_mem_cons.mp hdigits
    have hrest := ih hds
    have hle : d.toNat - '0'.toNat ≤ 9 := by
      have hrange := isDigit_iff.mp hd
      change d.toNat - 48 ≤ 9
      omega
    rw [Nat.ofDigitChars_cons, Nat.mul_zero, Nat.zero_add, Nat.ofDigitChars_eq_ofDigitChars_zero,
      List.length_cons, Nat.pow_succ]
    have hfirst := Nat.mul_le_mul_left (10 ^ ds.length) hle
    omega

/-! ### Integers -/

namespace Integer

variable {cs : List Char}

/-- Digits are read as their number. -/
theorem read?_of_isDigit (hne : cs ≠ []) (hdigits : ∀ c ∈ cs, c.isDigit) :
    read? cs = ofInt? (Nat.ofDigitChars 10 cs 0) := by
  have hread : readNat? cs = some (Nat.ofDigitChars 10 cs 0) := by
    rw [readNat?, if_pos]
    rw [Bool.and_eq_true, Bool.not_eq_true', List.isEmpty_eq_false_iff, List.all_eq_true]
    exact ⟨hne, hdigits⟩
  rw [read?, readInt?_of_isDigit hdigits, hread, Option.map_some, Option.bind_some]

/-- Digits that are no integer are those of a number beyond the range. -/
theorem read?_eq_none_iff (hne : cs ≠ []) (hdigits : ∀ c ∈ cs, c.isDigit) :
    read? cs = none ↔ 2 ^ 63 ≤ Nat.ofDigitChars 10 cs 0 := by
  rw [read?_of_isDigit hne hdigits, ofInt?]
  split
  · next hrange =>
    simp only [reduceCtorEq, false_iff, not_le]
    exact_mod_cast hrange.2
  · next hrange =>
    simp only [true_iff]
    by_contra hlt
    refine hrange ⟨?_, ?_⟩
    · omega
    · exact_mod_cast not_le.mp hlt

end Integer

/-! ### Decimals -/

namespace Decimal

/-- The digits before and behind a point are those of a number that is at least half a unit above the
largest coefficient. -/
def TooLarge (whole places : List Char) : Prop :=
  (2 ^ 97 - 1) * 10 ^ places.length ≤ 2 * Nat.ofDigitChars 10 (whole ++ places) 0

namespace Reading

/-- Digits before the point that have no room are not rounded. -/
theorem finish_of_large {st : Reading} (hpoint : st.afterPoint = false) {ds : List Char}
    (hdigits : ∀ c ∈ ds, c.isDigit) (rest : List Char) (hfits : st.coefficient < 2 ^ 96)
    (hlarge : 2 ^ 96 ≤ Nat.ofDigitChars 10 ds st.coefficient) : st.finish (ds ++ rest) = none := by
  induction ds generalizing st with
  | nil => exact absurd hlarge (Nat.not_le_of_lt hfits)
  | cons c ds ih =>
    obtain ⟨hc, hds⟩ := List.forall_mem_cons.mp hdigits
    rw [Nat.ofDigitChars_cons, Nat.mul_comm] at hlarge
    rw [List.cons_append, finish, if_pos hc]
    simp only [hpoint, Bool.false_eq_true, if_false]
    split
    · rfl
    · next hroom => exact ih rfl hds (Nat.lt_of_not_le hroom) hlarge

/-- Rounding fails only where it takes the largest coefficient up and there is no place to give up. -/
theorem roundOff_eq_none_iff {st : Reading} (hfits : st.coefficient < 2 ^ 96) (hscale : st.scale ≤ 28)
    {rest : List Char} (hrest : ∀ c ∈ rest, c.isDigit) (d : ℕ) :
    st.roundOff d rest = none ↔ st.scale = 0 ∧ st.coefficient = 2 ^ 96 - 1 ∧ 5 ≤ d := by
  -- what is behind the digit that is looked at can only be wrong if it is no digit
  have hall : (rest.all fun c => c.isDigit || c == '_') = true :=
    List.all_eq_true.mpr fun c hc => by rw [hrest c hc, Bool.true_or]
  have hup : (if 5 ≤ d then st.coefficient + 1 else st.coefficient) = 2 ^ 96 ↔
      st.coefficient = 2 ^ 96 - 1 ∧ 5 ≤ d := by
    split <;> omega
  have hle : (if 5 ≤ d then st.coefficient + 1 else st.coefficient) ≤ 2 ^ 96 := by
    split <;> omega
  rw [roundOff, if_pos hall, ← hup]
  dsimp only
  generalize (if 5 ≤ d then st.coefficient + 1 else st.coefficient) = up at hle
  split
  · next hless =>
    obtain ⟨r, hr⟩ := exists_ofParts? st.negative hless hscale
    rw [hr]
    exact iff_of_false (by simp) fun h => absurd h.2 (Nat.ne_of_lt hless)
  · next hmost =>
    have heq : up = 2 ^ 96 := Nat.le_antisymm hle (Nat.le_of_not_lt hmost)
    split
    · next hzero => exact iff_of_true rfl ⟨hzero, heq⟩
    · next hzero =>
      have hless : (up + 4) / 10 < 2 ^ 96 := by omega
      have hplaces : st.scale - 1 ≤ 28 := by omega
      obtain ⟨r, hr⟩ := exists_ofParts? st.negative hless hplaces
      rw [hr]
      exact iff_of_false (by simp) fun h => hzero h.1

/-- The same for the digits behind the point: only the first of them can be the one that is rounded. -/
theorem finish_eq_none_iff {st : Reading} (hpoint : st.afterPoint = true) (hseen : st.seen = true)
    (hfits : st.coefficient < 2 ^ 96) (hscale : st.scale ≤ 28) {ds : List Char}
    (hdigits : ∀ c ∈ ds, c.isDigit) :
    st.finish ds = none ↔ st.scale = 0 ∧ st.coefficient = 2 ^ 96 - 1 ∧
      ∃ d rest, ds = d :: rest ∧ 5 ≤ d.toNat - '0'.toNat := by
  induction ds generalizing st with
  | nil =>
    obtain ⟨r, hr⟩ := exists_ofParts? st.negative hfits hscale
    rw [finish, if_pos hseen, hr]
    simp
  | cons c ds ih =>
    obtain ⟨hc, hds⟩ := List.forall_mem_cons.mp hdigits
    have hfirst : (∃ d rest, c :: ds = d :: rest ∧ 5 ≤ d.toNat - '0'.toNat) ↔
        5 ≤ c.toNat - '0'.toNat := by
      constructor
      · rintro ⟨d, rest, heq, hd⟩
        cases heq
        exact hd
      · exact fun hd => ⟨c, ds, rfl, hd⟩
    rw [finish, if_pos hc, hfirst]
    dsimp only
    rw [if_pos hpoint]
    split
    · exact roundOff_eq_none_iff hfits hscale hds _
    · next hroom =>
      obtain ⟨hplace, hnext⟩ : st.scale < 28 ∧
          st.coefficient * 10 + (c.toNat - '0'.toNat) < 2 ^ 96 := by
        rw [Bool.or_eq_true, decide_eq_true_eq, decide_eq_true_eq, not_or, Nat.not_le,
          Nat.not_le] at hroom
        exact hroom
      refine (ih ?point ?seen ?fits ?scale hds).trans ?_
      case point => exact hpoint
      case seen => rfl
      case fits => exact hnext
      case scale => exact hplace
      -- with room for one more digit the coefficient is not the largest one
      refine iff_of_false (fun h => Nat.succ_ne_zero _ h.1) fun h => ?_
      omega

end Reading

/-- The point between two rows of digits is reached if the ones before it have room. -/
theorem read?_point {whole places : List Char} (hne : whole ≠ []) (hwhole : ∀ c ∈ whole, c.isDigit)
    (hplaces : ∀ c ∈ places, c.isDigit) :
    read? (whole ++ '.' :: places) = if Nat.ofDigitChars 10 whole 0 < 2 ^ 96 then
      Reading.finish ⟨false, true, true, Nat.ofDigitChars 10 whole 0, 0⟩ places else none := by
  -- digits and a point have no exponent
  have hscientific : readScientific? (whole ++ '.' :: places) = none := by
    have hmark : ∀ c ∈ whole ++ '.' :: places, (!(c == 'e' || c == 'E')) = true := by
      intro c hc
      have hc' : c.isDigit ∨ c = '.' := by
        rcases List.mem_append.mp hc with hc | hc
        · exact .inl (hwhole c hc)
        · rcases List.mem_cons.mp hc with rfl | hc
          · exact .inr rfl
          · exact .inl (hplaces c hc)
      rcases hc' with hdigit | rfl
      · have hmarks : c ≠ 'e' ∧ c ≠ 'E' := by
          constructor <;> rintro rfl <;> exact absurd hdigit (by decide)
        simp [hmarks]
      · decide
    simp only [readScientific?, List.dropWhile_eq_nil_iff.mpr hmark]
  have hread : read? (whole ++ '.' :: places) =
      Reading.finish ⟨false, false, false, 0, 0⟩ (whole ++ '.' :: places) := by
    obtain ⟨c, cs, rfl⟩ := List.exists_cons_of_ne_nil hne
    have hplain : readPlain? (c :: cs ++ '.' :: places) = _ :=
      readPlain?_of_isDigit (hwhole c List.mem_cons_self)
    rw [read?, hscientific, hplain, List.cons_append]
    cases Reading.finish ⟨false, false, false, 0, 0⟩ (c :: (cs ++ '.' :: places)) <;> rfl
  rw [hread]
  split
  · next hfits =>
    rw [Reading.finish_append whole _ _ hwhole hfits (by simp), Reading.finish,
      if_neg (by decide), if_pos (by rfl)]
    have hseen : whole.isEmpty = false := List.isEmpty_eq_false_iff.mpr hne
    simp [Reading.pass, hseen]
  · next hlarge =>
    exact Reading.finish_of_large rfl hwhole _ (by decide) (Nat.le_of_not_lt hlarge)

/-- The number of digits around a point goes by the digits before it, and by the first behind it where
those are of the largest coefficient. -/
theorem tooLarge_iff {whole places : List Char} {d : Char} (hplaces : ∀ c ∈ d :: places, c.isDigit) :
    TooLarge whole (d :: places) ↔ 2 ^ 96 ≤ Nat.ofDigitChars 10 whole 0 ∨
      Nat.ofDigitChars 10 whole 0 = 2 ^ 96 - 1 ∧ 5 ≤ d.toNat - '0'.toNat := by
  have hrest := ofDigitChars_lt (List.forall_mem_cons.mp hplaces).2
  have hall := ofDigitChars_lt hplaces
  have hunit : 10 ^ (d :: places).length = 10 ^ places.length * 10 :=
    Nat.pow_succ 10 places.length
  have hvalue : Nat.ofDigitChars 10 (d :: places) 0 =
      10 ^ places.length * (d.toNat - '0'.toNat) + Nat.ofDigitChars 10 places 0 := by
    rw [Nat.ofDigitChars_cons, Nat.mul_zero, Nat.zero_add, Nat.ofDigitChars_eq_ofDigitChars_zero]
  rw [hunit, hvalue] at hall
  rw [TooLarge, Nat.ofDigitChars_append, Nat.ofDigitChars_eq_ofDigitChars_zero, hunit, hvalue]
  generalize Nat.ofDigitChars 10 whole 0 = w
  generalize Nat.ofDigitChars 10 places 0 = f at *
  generalize d.toNat - '0'.toNat = n at *
  generalize 10 ^ places.length = k at *
  rcases Nat.lt_trichotomy w (2 ^ 96 - 1) with hless | rfl | hmore
  · -- even with all of the places it stays below the largest coefficient
    refine iff_of_false (fun hle => ?_) (by omega)
    have hunit := Nat.mul_le_mul_left (k * 10) (Nat.le_sub_one_of_lt hless)
    omega
  · have hfirst : 5 ≤ n → k * 5 ≤ k * n := Nat.mul_le_mul_left k
    have hfirst' : n ≤ 4 → k * n ≤ k * 4 := Nat.mul_le_mul_left k
    omega
  · refine iff_of_true ?_ (by omega)
    have hunit := Nat.mul_le_mul_left (k * 10) (Nat.succ_le_of_lt hmore)
    omega

/-- **Digits that are no decimal** are those of a number that is too large. -/
theorem read?_eq_none_iff {whole places : List Char} {d : Char} (hne : whole ≠ [])
    (hwhole : ∀ c ∈ whole, c.isDigit) (hplaces : ∀ c ∈ d :: places, c.isDigit) :
    read? (whole ++ '.' :: d :: places) = none ↔ TooLarge whole (d :: places) := by
  rw [read?_point hne hwhole hplaces, tooLarge_iff hplaces]
  split
  · next hfits =>
    rw [Reading.finish_eq_none_iff rfl rfl hfits (Nat.zero_le _) hplaces]
    constructor
    · rintro ⟨-, hlargest, d', rest, heq, hd⟩
      cases heq
      exact .inr ⟨hlargest, hd⟩
    · rintro (hlarge | ⟨hlargest, hd⟩)
      · exact absurd hlarge (Nat.not_le_of_lt hfits)
      · exact ⟨rfl, hlargest, d, places, rfl, hd⟩
  · next hlarge => exact iff_of_true rfl (.inl (Nat.le_of_not_lt hlarge))

end Decimal

end ExprLang
