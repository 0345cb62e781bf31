import ExprLang.Proofs.Value.Whole

/-!
# Values as signed integers

A value is seen as an integer of 64 or of 32 bits exactly where it denotes a whole number that the type
has room for, and then as that number.  It does not matter whether the number is an integer, a decimal
with zeros behind its point or a text.  There is nothing between being seen as the number and an error:
no places are cut off or rounded away, and nothing wraps around.

The narrower type is reached by way of the wider one.  So there are two errors, and which of them it is
tells whether at least an integer of 64 bits was found.

## Main definitions

* `Value.DenotesIn v low high` — the value denotes a whole number from `low` up to below `high`.

## Main results

* `Coercible.integer?_eq_none_iff` — where no integer is found.
* `Coercible.signed_of_denoted` — **coercion to signed integers is exact**.

## References

`SPEC_FULL.md`, 10.2; the reference's `from_value` for integers, and its tests
`test_integer_coercion` and `test_narrowing_reports_conversion_error`.
-/

namespace ExprLang

/-- The value denotes a whole number from `low` up to, but not including, `high`. -/
def Value.DenotesIn (v : Value) (low high : ℤ) : Prop := ∃ m, v.Denotes m ∧ low ≤ m ∧ m < high

namespace Coercible

section

variable {α : Type} {v : Value} {name : String} {found : Option α}

theorem orMismatch_eq_ok_iff {a : α} : orMismatch name v found = .ok a ↔ found = some a := by
  cases found <;> simp [orMismatch]

theorem orMismatch_eq_error_iff {e : ConversionError} :
    orMismatch name v found = .error e ↔ found = none ∧ e = ⟨v.kind, name⟩ := by
  cases found <;> simp [orMismatch, eq_comm]

end

variable {v : Value}

/-! ### 64 bits -/

/-- No integer is found where no whole number is denoted, or one that is out of range. -/
theorem integer?_eq_none_iff : integer? v = none ↔ ¬ v.DenotesIn (-2 ^ 63) (2 ^ 63) := by
  constructor
  · rintro h ⟨m, hm, hlow, hhigh⟩
    obtain ⟨i, rfl⟩ := Integer.exists_eq hlow hhigh
    rw [integer?_eq_some_iff.mpr hm] at h
    cases h
  · intro h
    refine Option.eq_none_iff_forall_ne_some.mpr fun i hi => h ?_
    exact ⟨i.toInt, integer?_eq_some_iff.mp hi, Int64.le_toInt i, Int64.toInt_lt i⟩

theorem ofValue_eq_ok_iff {n : Int64} :
    ofValue v = (.ok n : Except ConversionError Int64) ↔ v.Denotes n.toInt :=
  orMismatch_eq_ok_iff.trans integer?_eq_some_iff

theorem ofValue_eq_error_iff {e : ConversionError} :
    ofValue v = (.error e : Except ConversionError Int64) ↔
      ¬ v.DenotesIn (-2 ^ 63) (2 ^ 63) ∧ e = ⟨v.kind, "Integer"⟩ :=
  orMismatch_eq_error_iff.trans (and_congr_left' integer?_eq_none_iff)

/-! ### 32 bits -/

/-- The integer of 32 bits equal to one of 64, if there is one. -/
def narrow? (n : Int64) : Option Int32 :=
  if -2 ^ 31 ≤ n.toInt ∧ n.toInt < 2 ^ 31 then some (Int32.ofInt n.toInt) else none

theorem narrow?_eq_some_iff {n : Int64} {k : Int32} : narrow? n = some k ↔ k.toInt = n.toInt := by
  rw [narrow?, Option.ite_none_right_eq_some, Option.some_inj]
  constructor
  · rintro ⟨⟨hlow, hhigh⟩, rfl⟩
    exact Int32.toInt_ofInt_of_le hlow hhigh
  · intro h
    rw [← h]
    exact ⟨⟨Int32.le_toInt k, Int32.toInt_lt k⟩, Int32.ofInt_toInt k⟩

theorem narrow?_eq_none_iff {n : Int64} :
    narrow? n = none ↔ ¬ (-2 ^ 31 ≤ n.toInt ∧ n.toInt < 2 ^ 31) := by
  rw [narrow?, ite_eq_right_iff]
  exact ⟨fun h hrange => (Option.some_ne_none _ (h hrange)).elim, fun h hrange => (h hrange).elim⟩

/-- What is no integer of 64 bits is none of 32 either, for the same reason. -/
theorem ofValue_short_of_error {e : ConversionError}
    (h : ofValue v = (.error e : Except ConversionError Int64)) :
    (ofValue v : Except ConversionError Int32) = .error e := by
  change ((ofValue v : Except ConversionError Int64) >>= _) = _
  rw [h]
  rfl

theorem ofValue_short_of_ok {n : Int64} (h : ofValue v = (.ok n : Except ConversionError Int64)) :
    (ofValue v : Except ConversionError Int32) = orMismatch "32-bit Integer" v (narrow? n) := by
  change ((ofValue v : Except ConversionError Int64) >>= fun n => orMismatch _ v (narrow? n)) = _
  rw [h]
  rfl

theorem ofValue_eq_ok_short_iff {k : Int32} :
    ofValue v = (.ok k : Except ConversionError Int32) ↔ v.Denotes k.toInt := by
  cases h : (ofValue v : Except ConversionError Int64) with
  | error e =>
    rw [ofValue_short_of_error h]
    refine iff_of_false (by simp) fun hk => (ofValue_eq_error_iff.mp h).1 ⟨k.toInt, hk, ?_, ?_⟩
    · exact le_trans (by norm_num) (Int32.le_toInt k)
    · exact lt_trans (Int32.toInt_lt k) (by norm_num)
  | ok n =>
    have hn : v.Denotes n.toInt := ofValue_eq_ok_iff.mp h
    rw [ofValue_short_of_ok h, orMismatch_eq_ok_iff, narrow?_eq_some_iff]
    exact ⟨fun hk => hk ▸ hn, fun hk => hk.unique hn⟩

/-- The error tells whether an integer of 64 bits was found. -/
theorem ofValue_eq_error_short_iff {e : ConversionError} :
    ofValue v = (.error e : Except ConversionError Int32) ↔
      ¬ v.DenotesIn (-2 ^ 63) (2 ^ 63) ∧ e = ⟨v.kind, "Integer"⟩ ∨
      v.DenotesIn (-2 ^ 63) (2 ^ 63) ∧ ¬ v.DenotesIn (-2 ^ 31) (2 ^ 31) ∧
        e = ⟨v.kind, "32-bit Integer"⟩ := by
  cases h : (ofValue v : Except ConversionError Int64) with
  | error e' =>
    obtain ⟨hnone, rfl⟩ := ofValue_eq_error_iff.mp h
    rw [ofValue_short_of_error h, Except.error.injEq, eq_comm]
    simp only [hnone, not_false_eq_true, true_and, false_and, or_false]
  | ok n =>
    have hn : v.Denotes n.toInt := ofValue_eq_ok_iff.mp h
    have hfound : v.DenotesIn (-2 ^ 63) (2 ^ 63) := ⟨n.toInt, hn, Int64.le_toInt n, Int64.toInt_lt n⟩
    -- the number that is denoted is the one that was found
    have hshort : v.DenotesIn (-2 ^ 31) (2 ^ 31) ↔ -2 ^ 31 ≤ n.toInt ∧ n.toInt < 2 ^ 31 :=
      ⟨fun ⟨m, hm, hrange⟩ => hm.unique hn ▸ hrange, fun hrange => ⟨n.toInt, hn, hrange⟩⟩
    rw [ofValue_short_of_ok h, orMismatch_eq_error_iff, narrow?_eq_none_iff, ← hshort]
    simp only [hfound, not_true_eq_false, true_and, false_and, false_or]

/-- **Coercion to signed integers is exact.**  A value is seen as an integer of 64 or of 32 bits exactly
if it denotes that integer.  Any other value is an error, which tells whether the value denotes at least
an integer of 64 bits. -/
theorem signed_of_denoted (v : Value) :
    (∀ n : Int64, ofValue v = (.ok n : Except ConversionError Int64) ↔ v.Denotes n.toInt) ∧
    (∀ k : Int32, ofValue v = (.ok k : Except ConversionError Int32) ↔ v.Denotes k.toInt) ∧
    (∀ e, ofValue v = (.error e : Except ConversionError Int64) ↔
      ¬ v.DenotesIn (-2 ^ 63) (2 ^ 63) ∧ e = ⟨v.kind, "Integer"⟩) ∧
    (∀ e, ofValue v = (.error e : Except ConversionError Int32) ↔
      ¬ v.DenotesIn (-2 ^ 63) (2 ^ 63) ∧ e = ⟨v.kind, "Integer"⟩ ∨
      v.DenotesIn (-2 ^ 63) (2 ^ 63) ∧ ¬ v.DenotesIn (-2 ^ 31) (2 ^ 31) ∧
        e = ⟨v.kind, "32-bit Integer"⟩) :=
  ⟨fun _ => ofValue_eq_ok_iff, fun _ => ofValue_eq_ok_short_iff, fun _ => ofValue_eq_error_iff,
    fun _ => ofValue_eq_error_short_iff⟩

/-- The least integers, as a decimal with places and as a text with zeros in front, and what is one
beyond the largest. -/
theorem signed_of_extremes :
    let least : Decimal := ⟨true, 922337203685477580800, 2, by decide, by decide⟩
    let beyond : Decimal := ⟨false, 922337203685477580800, 2, by decide, by decide⟩
    ofValue (.decimal least) = (.ok Int64.minValue : Except ConversionError Int64) ∧
      ofValue (.decimal beyond) = (.error ⟨.decimal, "Integer"⟩ : Except ConversionError Int64) ∧
      ofValue (.string "\t-0002147483648 ") =
        (.ok Int32.minValue : Except ConversionError Int32) ∧
      ofValue (.integer 2147483648) =
        (.error ⟨.integer, "32-bit Integer"⟩ : Except ConversionError Int32) := by
  intro least beyond
  refine ⟨((signed_of_denoted _).1 _).mpr ?_, ((signed_of_denoted _).2.2.1 _).mpr ⟨?_, rfl⟩,
    ((signed_of_denoted _).2.1 _).mpr ?_, ((signed_of_denoted _).2.2.2 _).mpr (.inr ⟨?_, ?_, rfl⟩)⟩
  · -- the scale does not matter: both decimals are whole numbers
    have hleast : Int64.minValue.toInt = -2 ^ 63 := by decide
    change least.toRat = (Int64.minValue.toInt : ℤ)
    norm_num [hleast, Decimal.toRat, Decimal.signed, least]
  · rintro ⟨m, hm, -, hhigh⟩
    have hdenotes : (Value.decimal beyond).Denotes (2 ^ 63) := by
      change beyond.toRat = _
      norm_num [Decimal.toRat, Decimal.signed, beyond]
    exact absurd hhigh (hm.unique hdenotes ▸ lt_irrefl _)
  · rw [Value.denotes_string_iff]
    decide +kernel
  · exact ⟨2147483648, by change (2147483648 : Int64).toInt = _; decide, by norm_num, by norm_num⟩
  · rintro ⟨m, hm, -, hhigh⟩
    have hdenotes : (Value.integer 2147483648).Denotes (2 ^ 31) := by
      change (2147483648 : Int64).toInt = _
      decide
    exact absurd hhigh (hm.unique hdenotes ▸ lt_irrefl _)

end Coercible
end ExprLang
