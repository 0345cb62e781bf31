import ExprLang.Proofs.Value.Signed

/-!
# Values through their texts

Bindings and defaults may come as texts, and a text is seen as what it writes.  So a number or a truth
value that is turned into its text can be asked for as what it was.  The digits of an integer are read
as a whole number of any size, which is in the range because it was before.  A decimal is written with
all places of its scale, and reading counts them again; there is room for all digits, as the coefficient
had it, so none is rounded away.  Only the minus sign that a zero may carry does not come back.

## Main definitions

* `Coercible.throughText` — a value as a text, and the text as a value of a type.

## Main results

* `writes_intText` — what is written for a whole number is a way to write it.
* `Decimal.read?_chars` — the written form of a decimal is read as its parts.
* `Coercible.text_keeps_values` — **the way through a text loses nothing**.

## References

`SPEC_FULL.md`, 10.2: strings parse when well formed, and any value renders to one.
-/

namespace ExprLang

/-! ### Integers -/

theorem isDigit_of_mem_toDigits {n : ℕ} : ∀ c ∈ Nat.toDigits 10 n, c.isDigit := fun _ hc =>
  Nat.isDigit_of_mem_toDigits (by decide) (by decide) hc

/-- What is written for a whole number is a way to write it. -/
theorem writes_intText (n : ℤ) : Writes (intText n).toList n := by
  have hvalue : Nat.ofDigitChars 10 (Nat.toDigits 10 n.natAbs) 0 = n.natAbs :=
    Nat.ofDigitChars_toDigits (by decide) (by decide)
  unfold intText
  split
  · have hn : n = -(Nat.ofDigitChars 10 (Nat.toDigits 10 n.natAbs) 0 : ℕ) := by omega
    rw [String.toList_ofList]
    nth_rewrite 2 [hn]
    exact .minus Nat.toDigits_ne_nil isDigit_of_mem_toDigits
  · have hn : n = (Nat.ofDigitChars 10 (Nat.toDigits 10 n.natAbs) 0 : ℕ) := by omega
    rw [String.toList_ofList]
    nth_rewrite 2 [hn]
    exact .unsigned Nat.toDigits_ne_nil isDigit_of_mem_toDigits

/-- The text of an integer denotes it. -/
theorem Value.denotes_text (n : Int64) : (string (Integer.text n)).Denotes n.toInt :=
  ⟨[], _, [], by rw [List.nil_append, List.append_nil]; rfl, by simp, writes_intText n.toInt, by simp⟩

/-! ### Decimals -/

namespace Decimal

variable (d : Decimal)

/-- Nothing in the written form is blank. -/
theorem not_isBlank_of_mem_chars {c : Char} (hc : c ∈ d.chars) : isBlank c = false := by
  have hmagnitude : ∀ c ∈ d.magnitude, c.isDigit ∨ c = '.' := by
    unfold magnitude
    split
    · exact fun c hc => .inl (isDigit_of_mem_whole hc)
    · intro c hc
      rcases List.mem_append.mp hc with hwhole | hrest
      · exact .inl (isDigit_of_mem_whole hwhole)
      · exact (List.mem_cons.mp hrest).symm.imp_left isDigit_of_mem_places
  rw [chars_eq, List.mem_append] at hc
  rcases hc with hsign | hc
  · have hminus : c = '-' := by
      split at hsign
      · exact List.mem_singleton.mp hsign
      · cases hsign
    rw [hminus]
    rfl
  · rcases hmagnitude c hc with hdigit | rfl
    · exact not_isBlank_of_isDigit hdigit
    · rfl

/-- The written form is read as its parts. -/
theorem read?_chars : read? d.chars = ofParts? d.negative d.coefficient d.scale := by
  have hplain : readPlain? d.chars = ofParts? d.negative d.coefficient d.scale := by
    rw [chars_eq, ← finish_magnitude]
    cases d.negative with
    | true => rfl
    | false =>
      obtain ⟨c, cs, hcons, hc⟩ := d.exists_magnitude_eq_cons
      exact hcons ▸ readPlain?_of_isDigit hc
  rw [read?, hplain, ofParts?, dif_pos ⟨d.coefficient_lt, d.scale_le⟩]

/-- The parts of a decimal make the decimal again, but for the sign of a zero. -/
theorem ofParts?_parts : ∃ e, ofParts? d.negative d.coefficient d.scale = some e ∧
    e.toRat = d.toRat ∧ e.scale = d.scale ∧ (e = d ∨ d.isZero) := by
  have hparts : ofParts? d.negative d.coefficient d.scale =
      some (d.withSign (d.negative && d.coefficient != 0)) := by
    rw [ofParts?, dif_pos ⟨d.coefficient_lt, d.scale_le⟩]
    rfl
  refine ⟨_, hparts, ?_⟩
  by_cases hzero : d.coefficient = 0
  · refine ⟨?_, rfl, .inr (beq_iff_eq.mpr hzero)⟩
    simp [toRat, signed, withSign, hzero]
  · have hsign : (d.negative && d.coefficient != 0) = d.negative := by simp [hzero]
    have hsame : d.withSign (d.negative && d.coefficient != 0) = d := by rw [hsign]; rfl
    rw [hsame]
    exact ⟨rfl, rfl, .inl rfl⟩

end Decimal

/-! ### Coercion -/

namespace Coercible

/-- A value as a text, and the text as a value of the type `α`. -/
def throughText (α : Type) [Coercible α] (v : Value) : Except ConversionError α := do
  let s ← (ofValue v : Except ConversionError String)
  ofValue (.string s)

theorem throughText_eq (α : Type) [Coercible α] (v : Value) :
    throughText α v = ofValue (.string v.text) := rfl

theorem ofValue_decimal_string (s : String) : (ofValue (.string s) : Except ConversionError Decimal) =
    orMismatch "Decimal" (.string s) (Decimal.read? (trimList s.toList)) := rfl

/-- **The way through a text loses nothing.**  Integers and truth values come back as they were.  So do
decimals, with the same number and the same scale; the one thing that may be gone is the sign of a
zero. -/
theorem text_keeps_values :
    (∀ n : Int64, throughText Int64 (.integer n) = .ok n) ∧
    (∀ b : Bool, throughText Bool (.boolean b) = .ok b) ∧
    ∀ d : Decimal, ∃ e, throughText Decimal (.decimal d) = .ok e ∧
      e.toRat = d.toRat ∧ e.scale = d.scale ∧ (e = d ∨ d.isZero) := by
  refine ⟨fun n => ?_, fun b => ?_, fun d => ?_⟩
  · rw [throughText_eq]
    exact ofValue_eq_ok_iff.mpr (Value.denotes_text n)
  · cases b <;> decide +kernel
  · obtain ⟨e, he, hsame⟩ := d.ofParts?_parts
    -- a numeral has no blank in it, so trimming leaves it alone
    have htrim : trimList d.chars = d.chars := by
      have hnone : ∀ c ∈ ([] : List Char), isBlank c := by simp
      have h := trimList_append hnone (fun c => d.not_isBlank_of_mem_chars) hnone
      rwa [List.nil_append, List.append_nil] at h
    refine ⟨e, ?_, hsame⟩
    have htext : (Value.decimal d).text = String.ofList d.chars := rfl
    rw [throughText_eq, ofValue_decimal_string, htext, String.toList_ofList, htrim, d.read?_chars, he]
    rfl

/-- A zero with a sign is written `-0.0`, and read without the sign. -/
example : throughText Decimal (.decimal ⟨true, 0, 1, by decide, by decide⟩) =
    .ok ⟨false, 0, 1, by decide, by decide⟩ := by decide +kernel

end Coercible
end ExprLang
