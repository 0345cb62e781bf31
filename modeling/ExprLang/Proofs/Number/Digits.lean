import Mathlib.Algebra.Group.Nat.Defs
import ExprLang.Number.Decimal.Reading
import ExprLang.Text.Blank

/-!
# Numbers are read from their digits

The digits of a number, written with as many places as it has, are read as the number.  On the way the
reader has seen only what is less than the whole, so nothing outgrows the coefficients, and there are
no more places than a decimal has room for; so nothing is rounded.

## Main definitions

* `Decimal.whole`, `Decimal.places`, `Decimal.magnitude` — the digits on the two sides of the point, and
  all of them.
* `Decimal.Reading.pass` — a reading some digits further on.

## Main results

* `Integer.read?_toDigits` — digits are read as an integer if the number is in the range.
* `Decimal.finish_magnitude` — the digits of a decimal and its point are read as the decimal.
* `Decimal.read?_magnitude` — **a decimal without its sign is read back**.
-/

namespace ExprLang

theorem le_ofDigitChars (ds : List Char) (n : Nat) : n ≤ Nat.ofDigitChars 10 ds n := by
  induction ds generalizing n with
  | nil => exact Nat.le_refl n
  | cons d ds ih =>
    have hstep : n ≤ 10 * n + (d.toNat - '0'.toNat) := by omega
    rw [Nat.ofDigitChars_cons]
    exact Nat.le_trans hstep (ih _)

theorem ne_sign_of_isDigit {c : Char} (h : c.isDigit) : c ≠ '-' ∧ c ≠ '+' := by
  constructor <;> rintro rfl <;> exact absurd h (by decide)

theorem isDigit_iff {c : Char} : c.isDigit ↔ 48 ≤ c.toNat ∧ c.toNat ≤ 57 := by
  simp only [Char.isDigit, ge_iff_le, Bool.and_eq_true, decide_eq_true_eq, UInt32.le_iff_toNat_le]
  exact Iff.rfl

theorem not_isBlank_of_isDigit {c : Char} (h : c.isDigit) : isBlank c = false := by
  have hrange := isDigit_iff.mp h
  simp only [isBlank, Bool.or_eq_false_iff, Bool.and_eq_false_iff, beq_eq_false_iff_ne,
    decide_eq_false_iff_not]
  omega

theorem readNat?_toDigits (n : Nat) : readNat? (Nat.toDigits 10 n) = some n := by
  have hdigits : (Nat.toDigits 10 n).all Char.isDigit := by
    rw [List.all_eq_true]
    exact fun c hc => Nat.isDigit_of_mem_toDigits (by decide) (by decide) hc
  rw [readNat?, if_pos (by simp [hdigits, Nat.toDigits_ne_nil]),
    Nat.ofDigitChars_toDigits (by decide) (by decide)]

/-- Without a sign in front, digits are read as they are. -/
theorem readInt?_of_isDigit {cs : List Char} (h : ∀ c ∈ cs, c.isDigit) :
    readInt? cs = (readNat? cs).map fun (n : Nat) => (n : Int) := by
  cases cs with
  | nil => rfl
  | cons c cs =>
    -- the first character is neither of the signs
    obtain ⟨hminus, hplus⟩ := ne_sign_of_isDigit (h c List.mem_cons_self)
    rw [readInt?]
    · cases readNat? (c :: cs) <;> rfl
    all_goals simp [hminus, hplus]

theorem Integer.read?_toDigits (n : Nat) : read? (Nat.toDigits 10 n) = ofInt? n := by
  have hread := readInt?_of_isDigit fun c hc =>
    Nat.isDigit_of_mem_toDigits (b := 10) (n := n) (by decide) (by decide) hc
  rw [read?, hread, readNat?_toDigits, Option.map_some, Option.bind_some]

namespace Decimal

/-! ### The digits of a decimal -/

theorem isDigit_of_mem_digits {coefficient scale : Nat} {c : Char}
    (h : c ∈ digits coefficient scale) : c.isDigit := by
  rcases List.mem_append.mp h with hzero | hdigit
  · rw [List.eq_of_mem_replicate hzero]
    rfl
  · exact Nat.isDigit_of_mem_toDigits (by decide) (by decide) hdigit

/-- The zeros in front add nothing. -/
theorem ofDigitChars_digits (coefficient scale : Nat) :
    Nat.ofDigitChars 10 (digits coefficient scale) 0 = coefficient := by
  rw [digits, Nat.ofDigitChars_append, Nat.ofDigitChars_replicate_zero, Nat.mul_zero,
    Nat.ofDigitChars_toDigits (by decide) (by decide)]

theorem lt_length_digits (coefficient scale : Nat) :
    scale < (digits coefficient scale).length := by
  simp only [digits, List.length_append, List.length_replicate]
  omega

/-- Without places no zeros stand in front. -/
theorem digits_zero (coefficient : Nat) : digits coefficient 0 = Nat.toDigits 10 coefficient := by
  have hlength : 0 < (Nat.toDigits 10 coefficient).length := Nat.length_toDigits_pos
  have hnone : 0 + 1 - (Nat.toDigits 10 coefficient).length = 0 := by omega
  rw [digits, hnone]
  rfl

section

variable (d : Decimal)

/-- The digits before the point. -/
def whole : List Char :=
  (digits d.coefficient d.scale).take ((digits d.coefficient d.scale).length - d.scale)

/-- The digits behind the point. -/
def places : List Char :=
  (digits d.coefficient d.scale).drop ((digits d.coefficient d.scale).length - d.scale)

/-- The written form without a sign. -/
def magnitude : List Char := if d.scale = 0 then d.whole else d.whole ++ '.' :: d.places

theorem chars_eq : d.chars = (if d.negative then ['-'] else []) ++ d.magnitude := by
  cases hd : d.negative <;> simp [chars, magnitude, whole, places, hd]

theorem whole_append_places : d.whole ++ d.places = digits d.coefficient d.scale :=
  List.take_append_drop _ _

theorem length_places : d.places.length = d.scale := by
  have hlt := lt_length_digits d.coefficient d.scale
  rw [places, List.length_drop]
  omega

theorem whole_ne_nil : d.whole ≠ [] := by
  have hlt := lt_length_digits d.coefficient d.scale
  rw [← List.length_pos_iff, whole, List.length_take]
  omega

theorem magnitude_of_scale_eq_zero (h : d.scale = 0) :
    d.magnitude = Nat.toDigits 10 d.coefficient := by
  rw [magnitude, if_pos h, whole, h, digits_zero, Nat.sub_zero, List.take_length]

variable {d}

theorem isDigit_of_mem_whole {c : Char} (h : c ∈ d.whole) : c.isDigit :=
  isDigit_of_mem_digits (List.mem_of_mem_take h)

theorem isDigit_of_mem_places {c : Char} (h : c ∈ d.places) : c.isDigit :=
  isDigit_of_mem_digits (List.mem_of_mem_drop h)

end

/-! ### Reading digits -/

namespace Reading

/-- The reading after further digits that there is room for. -/
def pass (st : Reading) (ds : List Char) : Reading :=
  { st with
    seen := st.seen || !ds.isEmpty
    coefficient := Nat.ofDigitChars 10 ds st.coefficient
    scale := if st.afterPoint then st.scale + ds.length else st.scale }

/-- Digits that there is room for are all read. -/
theorem finish_append (ds rest : List Char) (st : Reading) (hdigits : ∀ c ∈ ds, c.isDigit)
    (hfits : Nat.ofDigitChars 10 ds st.coefficient < 2 ^ 96)
    (hroom : st.afterPoint → st.scale + ds.length ≤ 28) :
    st.finish (ds ++ rest) = (st.pass ds).finish rest := by
  induction ds generalizing st with
  | nil => simp [pass]
  | cons c ds ih =>
    have hc : c.isDigit := hdigits c List.mem_cons_self
    rw [Nat.ofDigitChars_cons, Nat.mul_comm] at hfits
    -- what has been read so far is no more than the whole
    have hnext : ¬ coefficientBound ≤ st.coefficient * 10 + (c.toNat - '0'.toNat) := by
      have hle := le_ofDigitChars ds (st.coefficient * 10 + (c.toNat - '0'.toNat))
      exact Nat.not_le_of_lt (Nat.lt_of_le_of_lt hle hfits)
    have hds : ∀ c ∈ ds, c.isDigit := fun c' hc' => hdigits c' (List.mem_cons_of_mem _ hc')
    rw [List.cons_append, finish, if_pos hc]
    cases hpoint : st.afterPoint with
    | true =>
      have hplaces := hroom hpoint
      rw [List.length_cons] at hplaces
      have hscale : ¬ maxScale ≤ st.scale := by
        change ¬ 28 ≤ st.scale
        omega
      simp only [hscale, hnext, decide_false, Bool.or_self, if_true, Bool.false_eq_true, if_false]
      rw [ih _ hds hfits fun _ => by dsimp only; omega]
      simp [pass, hpoint, Nat.ofDigitChars_cons, Nat.mul_comm, Nat.add_assoc, Nat.add_comm 1]
    | false =>
      simp only [hnext, Bool.false_eq_true, if_false]
      rw [ih _ hds hfits fun hpoint' => by cases hpoint']
      simp [pass, hpoint, Nat.ofDigitChars_cons, Nat.mul_comm]

end Reading

theorem readPlain?_of_isDigit {c : Char} {cs : List Char} (hc : c.isDigit) :
    readPlain? (c :: cs) = Reading.finish ⟨false, false, false, 0, 0⟩ (c :: cs) := by
  obtain ⟨hminus, hplus⟩ := ne_sign_of_isDigit hc
  rw [readPlain?] <;> simp [hminus, hplus]

section

variable (d : Decimal)

/-- The number is that of the digits before the point, with those behind it. -/
theorem ofDigitChars_places :
    Nat.ofDigitChars 10 d.places (Nat.ofDigitChars 10 d.whole 0) = d.coefficient := by
  rw [← Nat.ofDigitChars_append, whole_append_places, ofDigitChars_digits]

theorem finish_whole_append (negative : Bool) (rest : List Char) :
    Reading.finish ⟨negative, false, false, 0, 0⟩ (d.whole ++ rest) =
      Reading.finish ⟨negative, false, true, Nat.ofDigitChars 10 d.whole 0, 0⟩ rest := by
  have hfits : Nat.ofDigitChars 10 d.whole 0 < 2 ^ 96 := by
    have hle := le_ofDigitChars d.places (Nat.ofDigitChars 10 d.whole 0)
    rw [ofDigitChars_places] at hle
    exact Nat.lt_of_le_of_lt hle d.coefficient_lt
  rw [Reading.finish_append d.whole rest ⟨negative, false, false, 0, 0⟩
    (fun c => isDigit_of_mem_whole) hfits (by simp)]
  have hseen : d.whole.isEmpty = false := List.isEmpty_eq_false_iff.mpr d.whole_ne_nil
  simp [Reading.pass, hseen]

/-- The digits of a decimal and its point are read as the decimal, with a sign that was there before. -/
theorem finish_magnitude (negative : Bool) :
    Reading.finish ⟨negative, false, false, 0, 0⟩ d.magnitude =
      ofParts? negative d.coefficient d.scale := by
  have hvalue := d.ofDigitChars_places
  unfold magnitude
  -- a number without places is written without a point
  split
  · rename_i hscale
    have hnone : d.places = [] := List.length_eq_zero_iff.mp (d.length_places.trans hscale)
    have hread := d.finish_whole_append negative []
    rw [hnone, Nat.ofDigitChars_nil] at hvalue
    rw [List.append_nil] at hread
    rw [hread, hvalue, Reading.finish, if_pos rfl, hscale]
  · have hread := Reading.finish_append d.places []
      ⟨negative, true, true, Nat.ofDigitChars 10 d.whole 0, 0⟩ (fun c => isDigit_of_mem_places)
      (hvalue ▸ d.coefficient_lt)
      (fun _ => by rw [Nat.zero_add, length_places]; exact d.scale_le)
    rw [List.append_nil] at hread
    rw [finish_whole_append, Reading.finish, if_neg (by decide), if_pos (by rfl)]
    change Reading.finish ⟨negative, true, true, Nat.ofDigitChars 10 d.whole 0, 0⟩ d.places = _
    rw [hread, Reading.finish, Reading.pass]
    simp [hvalue, length_places]

/-- The first of the digits is not a sign. -/
theorem exists_magnitude_eq_cons : ∃ c cs, d.magnitude = c :: cs ∧ c.isDigit := by
  obtain ⟨c, cs, hcons⟩ := List.exists_cons_of_ne_nil d.whole_ne_nil
  have hc : c.isDigit := isDigit_of_mem_whole (d := d) (by simp [hcons])
  unfold magnitude
  split
  · exact ⟨c, cs, hcons, hc⟩
  · exact ⟨c, cs ++ '.' :: d.places, by rw [hcons, List.cons_append], hc⟩

/-- **A decimal without its sign is read back.** -/
theorem read?_magnitude : read? d.magnitude = some (d.withSign false) := by
  obtain ⟨c, cs, hcons, hc⟩ := d.exists_magnitude_eq_cons
  have hparts : ofParts? false d.coefficient d.scale = some (d.withSign false) := by
    rw [ofParts?, dif_pos ⟨d.coefficient_lt, d.scale_le⟩]
    rfl
  have hplain : readPlain? d.magnitude = some (d.withSign false) := by
    rw [hcons, readPlain?_of_isDigit hc, ← hcons, finish_magnitude, hparts]
  rw [read?, hplain]

end

end Decimal

end ExprLang
