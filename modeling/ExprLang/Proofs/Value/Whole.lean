import Mathlib.Data.List.TakeWhile
import Mathlib.Data.Rat.Cast.Order
import ExprLang.Proofs.Number.Digits
import ExprLang.Proofs.Number.Rational
import ExprLang.Proofs.Value.Exact
import ExprLang.Value.Coercion

/-!
# The whole numbers that values denote

An integer denotes itself, a decimal denotes a whole number if there is nothing behind its point but
zeros, and a text does if it is digits, with a sign or without one, between blanks.  To be seen as
an integer, a value has to denote a whole number that is in the range; to be seen as an unsigned integer
it has to be seen as an integer first, so the larger half of the unsigned integers is never found.

## Main definitions

* `Writes` — digits with or without a sign, and the number they stand for.
* `Value.Denotes` — the whole number that a value denotes.

## Main results

* `trimList_append`, `exists_eq_append_trimList` — what trimming takes off.
* `readInt?_eq_some_iff` — reading a number is the same as its being written.
* `Coercible.integer?_eq_some_iff` — **a value is seen as the integer it denotes**.
* `Coercible.unsigned_of_denoted` — **a value is seen as an unsigned integer only as far as integers go**.

## References

`SPEC_FULL.md`, 10.2; the reference's `from_value` for integers without a sign.
-/

namespace ExprLang

/-! ### Texts -/

/-- The characters are digits, with or without a sign before them, and stand for a whole number. -/
inductive Writes : List Char → ℤ → Prop
  | unsigned {ds : List Char} (hne : ds ≠ []) (hdigits : ∀ c ∈ ds, c.isDigit) :
      Writes ds (Nat.ofDigitChars 10 ds 0)
  | plus {ds : List Char} (hne : ds ≠ []) (hdigits : ∀ c ∈ ds, c.isDigit) :
      Writes ('+' :: ds) (Nat.ofDigitChars 10 ds 0)
  | minus {ds : List Char} (hne : ds ≠ []) (hdigits : ∀ c ∈ ds, c.isDigit) :
      Writes ('-' :: ds) (-(Nat.ofDigitChars 10 ds 0 : ℕ))

theorem readNat?_eq_some_iff {cs : List Char} {n : ℕ} :
    readNat? cs = some n ↔
      cs ≠ [] ∧ (∀ c ∈ cs, c.isDigit) ∧ Nat.ofDigitChars 10 cs 0 = n := by
  rw [readNat?, Option.ite_none_right_eq_some, Option.some_inj, Bool.and_eq_true, List.all_eq_true,
    Bool.not_eq_true', List.isEmpty_eq_false_iff, and_assoc]

/-- A number is read exactly where one is written. -/
theorem readInt?_eq_some_iff {cs : List Char} {n : ℤ} : readInt? cs = some n ↔ Writes cs n := by
  constructor
  · intro h
    unfold readInt? at h
    split at h
    all_goals
      -- whatever the sign, digits have to follow
      cases hread : readNat? _ with
      | none =>
        rw [hread] at h
        cases h
      | some m =>
        rw [hread] at h
        cases h
        obtain ⟨hne, hdigits, rfl⟩ := readNat?_eq_some_iff.mp hread
        first
          | exact .minus hne hdigits
          | exact .plus hne hdigits
          | exact .unsigned hne hdigits
  · intro h
    cases h with
    | unsigned hne hdigits =>
      rw [readInt?_of_isDigit hdigits, readNat?_eq_some_iff.mpr ⟨hne, hdigits, rfl⟩]
      rfl
    | plus hne hdigits | minus hne hdigits =>
      rw [readInt?, readNat?_eq_some_iff.mpr ⟨hne, hdigits, rfl⟩]
      rfl

/-- Nothing in a number is blank. -/
theorem Writes.not_isBlank {cs : List Char} {n : ℤ} (h : Writes cs n) :
    ∀ c ∈ cs, isBlank c = false := by
  intro c hc
  cases h with
  | unsigned _ hdigits => exact not_isBlank_of_isDigit (hdigits c hc)
  | plus _ hdigits | minus _ hdigits =>
    rcases List.mem_cons.mp hc with rfl | hc
    · decide
    · exact not_isBlank_of_isDigit (hdigits c hc)

/-! ### Trimming -/

/-- Trimming takes off the blanks around what is not blank. -/
theorem trimList_append {before core after : List Char} (hbefore : ∀ c ∈ before, isBlank c)
    (hcore : ∀ c ∈ core, isBlank c = false) (hafter : ∀ c ∈ after, isBlank c) :
    trimList (before ++ core ++ after) = core := by
  have hstays : ∀ {l : List Char}, (∀ c ∈ l, isBlank c = false) → l.dropWhile isBlank = l := by
    intro l hl
    rw [List.dropWhile_eq_self_iff]
    exact fun h => by simp [hl _ (List.getElem_mem h)]
  -- the core may be empty, and then the blanks behind it go with those before
  have hfront : (before ++ core ++ after).dropWhile isBlank = core ++ after.dropWhile isBlank ∨
      (before ++ core ++ after).dropWhile isBlank = core ++ after := by
    rw [List.append_assoc, List.dropWhile_append_of_pos hbefore, List.dropWhile_append, hstays hcore]
    split
    · next h => exact .inl (by rw [List.isEmpty_iff.mp h, List.nil_append])
    · exact .inr rfl
  have hback : ∀ {l : List Char}, (∀ c ∈ l, isBlank c) →
      ((core ++ l).reverse.dropWhile isBlank).reverse = core := by
    intro l hl
    rw [List.reverse_append, List.dropWhile_append_of_pos fun c hc => hl c (List.mem_reverse.mp hc),
      hstays fun c hc => hcore c (List.mem_reverse.mp hc), List.reverse_reverse]
  unfold trimList
  rcases hfront with hfront | hfront <;> rw [hfront]
  · exact hback fun c hc => hafter c ((List.dropWhile_sublist _).mem hc)
  · exact hback hafter

/-- Trimming takes off nothing but blanks. -/
theorem exists_eq_append_trimList (cs : List Char) : ∃ before after,
    cs = before ++ trimList cs ++ after ∧ (∀ c ∈ before, isBlank c) ∧ ∀ c ∈ after, isBlank c := by
  refine ⟨cs.takeWhile isBlank, ((cs.dropWhile isBlank).reverse.takeWhile isBlank).reverse, ?_,
    fun c hc => List.mem_takeWhile_imp hc, fun c hc => List.mem_takeWhile_imp (List.mem_reverse.mp hc)⟩
  rw [trimList, List.append_assoc, ← List.reverse_append, List.takeWhile_append_dropWhile,
    List.reverse_reverse, List.takeWhile_append_dropWhile]

/-! ### Values -/

/-- The whole number that a value denotes: an integer, a decimal that equals a whole number, or a text
in which nothing but blanks stands around digits with or without a sign. -/
def Value.Denotes : Value → ℤ → Prop
  | integer i, n => i.toInt = n
  | decimal d, n => d.toRat = n
  | string s, n => ∃ before core after, s.toList = before ++ core ++ after ∧
      (∀ c ∈ before, isBlank c) ∧ Writes core n ∧ ∀ c ∈ after, isBlank c
  | _, _ => False

/-- A text denotes what is written in it once it is trimmed. -/
theorem Value.denotes_string_iff {s : String} {n : ℤ} :
    (string s).Denotes n ↔ readInt? (trimList s.toList) = some n := by
  rw [readInt?_eq_some_iff]
  constructor
  · rintro ⟨before, core, after, htext, hbefore, hwrites, hafter⟩
    rwa [htext, trimList_append hbefore hwrites.not_isBlank hafter]
  · intro h
    obtain ⟨before, after, htext, hbefore, hafter⟩ := exists_eq_append_trimList s.toList
    exact ⟨before, _, after, htext, hbefore, h, hafter⟩

/-- A value denotes one number at most. -/
theorem Value.Denotes.unique {v : Value} {m n : ℤ} (hm : v.Denotes m) (hn : v.Denotes n) : m = n := by
  cases v with
  | integer i => exact hm.symm.trans hn
  | decimal d => exact_mod_cast Eq.trans (Eq.symm hm) hn
  | string s =>
    rw [denotes_string_iff] at hm hn
    exact Option.some.inj (hm.symm.trans hn)
  | _ => exact hm.elim

/-- A decimal is a whole number if the power of ten divides the coefficient, and then the quotient is
that number. -/
theorem Decimal.toRat_eq_intCast_iff {d : Decimal} {n : ℤ} :
    d.toRat = n ↔ d.isIntegral ∧ d.signed.tdiv (10 ^ d.scale) = n := by
  have hunit : (10 : ℤ) ^ d.scale ≠ 0 := pow_ne_zero _ (by decide)
  -- the check is made on the magnitude, the sign being put on afterwards
  have hintegral : d.isIntegral ↔ (10 : ℤ) ^ d.scale ∣ d.signed := by
    have hcast : ((10 ^ d.scale : ℕ) : ℤ) = 10 ^ d.scale := by push_cast; rfl
    rw [isIntegral, beq_iff_eq, ← Nat.dvd_iff_mod_eq_zero, ← Int.natCast_dvd_natCast, hcast]
    unfold signed
    split
    · exact (Int.dvd_neg).symm
    · exact Iff.rfl
  have hproduct : d.toRat = n ↔ d.signed = n * 10 ^ d.scale := by
    rw [toRat, div_eq_iff (by exact_mod_cast hunit)]
    exact_mod_cast Iff.rfl
  rw [hproduct, hintegral]
  constructor
  · intro h
    rw [h, Int.mul_tdiv_cancel _ hunit]
    exact ⟨Int.dvd_mul_left _ _, rfl⟩
  · rintro ⟨hdvd, rfl⟩
    exact (Int.tdiv_mul_cancel hdvd).symm

theorem Decimal.toInteger?_eq_some_iff {d : Decimal} {i : Int64} :
    d.toInteger? = some i ↔ d.toRat = i.toInt := by
  rw [toInteger?, Option.ite_none_right_eq_some, Integer.ofInt?_eq_some_iff, toRat_eq_intCast_iff,
    eq_comm (a := i.toInt)]

/-- **A value is seen as the integer it denotes.** -/
theorem Coercible.integer?_eq_some_iff {v : Value} {i : Int64} :
    integer? v = some i ↔ v.Denotes i.toInt := by
  cases v with
  | integer n => exact Option.some_inj.trans Int64.toInt_inj.symm
  | decimal d => exact Decimal.toInteger?_eq_some_iff
  | string s =>
    rw [integer?, Value.denotes_string_iff, Integer.read?, Option.bind_eq_some_iff]
    simp only [Integer.ofInt?_eq_some_iff]
    constructor
    · rintro ⟨n, hread, rfl⟩
      exact hread
    · exact fun hread => ⟨_, hread, rfl⟩
  | _ => exact iff_of_false (Option.some_ne_none i).symm id

/-! ### Unsigned integers -/

namespace Coercible

variable {v : Value}

/-- A value that is no integer is no unsigned integer either, for the same reason. -/
theorem ofValue_unsigned_of_none (h : integer? v = none) :
    (ofValue v : Except ConversionError UInt64) = .error ⟨v.kind, "Integer"⟩ := by
  change (orMismatch "Integer" v (integer? v) >>= _) = _
  rw [h]
  rfl

theorem ofValue_unsigned_of_some {i : Int64} (h : integer? v = some i) :
    (ofValue v : Except ConversionError UInt64) =
      if 0 ≤ i.toInt then .ok (.ofNat i.toInt.toNat) else .error ⟨v.kind, "Unsigned Integer"⟩ := by
  change (orMismatch "Integer" v (integer? v) >>= fun n => orMismatch "Unsigned Integer" v _) = _
  rw [h]
  change orMismatch "Unsigned Integer" v _ = _
  split <;> rfl

/-- The values that are seen as unsigned integers are those that denote one below `2 ^ 63`. -/
theorem ofValue_eq_ok_unsigned_iff {n : UInt64} :
    ofValue v = (.ok n : Except ConversionError UInt64) ↔ v.Denotes n.toNat ∧ n.toNat < 2 ^ 63 := by
  cases h : integer? v with
  | none =>
    rw [ofValue_unsigned_of_none h]
    refine ⟨nofun, fun ⟨hdenotes, hlt⟩ => ?_⟩
    -- a number below the bound would be an integer, and there is none
    obtain ⟨i, hi⟩ := Integer.exists_eq (n := n.toNat) (by omega) (by omega)
    rw [integer?_eq_some_iff.mpr (hi ▸ hdenotes)] at h
    cases h
  | some i =>
    -- an integer is taken if it is not negative
    have hi : v.Denotes i.toInt := integer?_eq_some_iff.mp h
    have hlow := Int64.le_toInt i
    have hhigh := Int64.toInt_lt i
    rw [ofValue_unsigned_of_some h]
    constructor
    · intro hok
      split at hok
      · next hnonneg =>
        cases hok
        have hsize : i.toInt.toNat < UInt64.size := by
          change _ < 2 ^ 64
          omega
        rw [UInt64.toNat_ofNat_of_lt' hsize, Int.toNat_of_nonneg hnonneg]
        exact ⟨hi, by omega⟩
      · cases hok
    · rintro ⟨hdenotes, hlt⟩
      have heq : i.toInt = n.toNat := hi.unique hdenotes
      rw [heq, if_pos (by omega), Int.toNat_natCast, UInt64.ofNat_toNat]

/-- **A value is seen as an unsigned integer only as far as integers go.**  It is one if it denotes a whole
number from zero up to the largest integer.  Anything else is an error, which tells whether the value is
at least an integer. -/
theorem unsigned_of_denoted (v : Value) :
    (∀ n : UInt64, ofValue v = (.ok n : Except ConversionError UInt64) ↔
      v.Denotes n.toNat ∧ n.toNat < 2 ^ 63) ∧
    (∀ m : ℤ, v.Denotes m → -2 ^ 63 ≤ m → m < 0 →
      (ofValue v : Except ConversionError UInt64) = .error ⟨v.kind, "Unsigned Integer"⟩) ∧
    ((∀ m : ℤ, v.Denotes m → m < -2 ^ 63 ∨ 2 ^ 63 ≤ m) →
      (ofValue v : Except ConversionError UInt64) = .error ⟨v.kind, "Integer"⟩) := by
  refine ⟨fun n => ofValue_eq_ok_unsigned_iff, fun m hm hlow hneg => ?_, fun hout => ?_⟩
  · obtain ⟨i, rfl⟩ := Integer.exists_eq hlow (by omega)
    rw [ofValue_unsigned_of_some (integer?_eq_some_iff.mpr hm), if_neg (by omega)]
  · refine ofValue_unsigned_of_none (Option.eq_none_iff_forall_ne_some.mpr fun i h => ?_)
    have hlow := Int64.le_toInt i
    have hhigh := Int64.toInt_lt i
    have := hout i.toInt (integer?_eq_some_iff.mp h)
    omega

/-- The largest integer, once as a decimal with places and once as a text between blanks, and a number
that has a sign. -/
theorem unsigned_of_extremes :
    let largest : Decimal := ⟨false, 922337203685477580700, 2, by decide, by decide⟩
    (ofValue (.decimal largest) : Except ConversionError UInt64) = .ok 9223372036854775807 ∧
      (ofValue (.string " +9223372036854775807\n") : Except ConversionError UInt64) =
        .ok 9223372036854775807 ∧
      (ofValue (.integer (-1)) : Except ConversionError UInt64) =
        .error ⟨.integer, "Unsigned Integer"⟩ := by
  intro largest
  have hlargest : (UInt64.toNat 9223372036854775807 : ℤ) = 9223372036854775807 := by decide +kernel
  have hdecimal : (Value.decimal largest).Denotes (UInt64.toNat 9223372036854775807) := by
    rw [hlargest]
    change largest.toRat = _
    norm_num [Decimal.toRat, Decimal.signed, largest]
  have hstring : (Value.string " +9223372036854775807\n").Denotes
      (UInt64.toNat 9223372036854775807) := by
    rw [Value.denotes_string_iff]
    decide +kernel
  have hinteger : (Value.integer (-1)).Denotes (-1) := by
    change (-1 : Int64).toInt = -1
    decide
  refine ⟨?_, ?_, ?_⟩
  · exact ((unsigned_of_denoted _).1 _).mpr ⟨hdecimal, by decide +kernel⟩
  · exact ((unsigned_of_denoted _).1 _).mpr ⟨hstring, by decide +kernel⟩
  · exact (unsigned_of_denoted _).2.1 (-1) hinteger (by norm_num) (by norm_num)

/-- An unsigned integer above the largest integer is not seen, neither in a decimal nor in a text. -/
theorem unsigned_not_above_integers :
    let power : Decimal := ⟨false, 2 ^ 63, 0, by decide, by decide⟩
    (Value.decimal power).Denotes (2 ^ 63) ∧
      (ofValue (.decimal power) : Except ConversionError UInt64) = .error ⟨.decimal, "Integer"⟩ ∧
    (Value.string "18446744073709551615").Denotes (2 ^ 64 - 1) ∧
      (ofValue (.string "18446744073709551615") : Except ConversionError UInt64) =
        .error ⟨.string, "Integer"⟩ := by
  intro power
  refine ⟨?_, ?_, ?_, ?_⟩
  · change power.toRat = _
    norm_num [Decimal.toRat, Decimal.signed, power]
  · exact ofValue_unsigned_of_none (by decide +kernel)
  · rw [Value.denotes_string_iff]
    decide +kernel
  · exact ofValue_unsigned_of_none (by decide +kernel)

end Coercible
end ExprLang
