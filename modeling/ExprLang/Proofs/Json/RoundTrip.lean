import ExprLang.Proofs.Json.Documents
import ExprLang.Proofs.Number.Nearest
import ExprLang.Proofs.Value.Json

/-!
# Documents without fractions come back

A document whose numbers are integers is read as a value and written again.  It comes back as it was,
but for the integers from `2 ^ 63` on: there is a place for them in the format and none among the
integers of the language.  They are read as decimals, which are written as doubles.

## Main definitions

* `Json.Number.IsInteger`, `Json.Number.IsSigned` — the integers of the format, and those of the language.
* `Json.Number.narrowed` — what a number comes back as.

## Main results

* `Value.toJson_ofJson_eq_mapNumbers` — the numbers come back one by one, and all else as it was.
* `Value.toJson_ofJson_eq_self` — nothing changes where all numbers are integers of the language.
* `Value.toJson_ofJson_of_integers` — **integers come back as they were below `2 ^ 63`, and from there on
  as the nearest double**.

## References

`SPEC_FULL.md`, 10.2; the reference's `to_json` and its test `test_json_conversion_keeps_types`.
-/

namespace ExprLang

/-! ### Integers -/

namespace Json.Number

/-- The integers that the format keeps exact: those that fit 64 bits, with a sign or without one. -/
def IsInteger : Number → Prop
  | whole n => -2 ^ 63 ≤ n ∧ n < 2 ^ 64
  | double _ => False

/-- The integers that fit 64 bits with a sign. -/
def IsSigned : Number → Prop
  | whole n => -2 ^ 63 ≤ n ∧ n < 2 ^ 63
  | double _ => False

/-- A number without a sign that takes all 64 bits gives way to the double next to it. -/
def narrowed : Number → Number
  | whole n => if n < 2 ^ 63 then whole n else double (Double.ofNat n.toNat)
  | double x => double x

theorem IsSigned.isInteger {n : Number} (h : n.IsSigned) : n.IsInteger := by
  cases n with
  | whole n => exact ⟨h.1, h.2.trans (by norm_num)⟩
  | double x => exact h

theorem narrowed_of_isSigned {n : Number} (h : n.IsSigned) : n.narrowed = n := by
  cases n with
  | whole n => rw [narrowed, if_pos h.2]
  | double x => rfl

/-- The double is the nearest one. -/
theorem narrowed_of_le {n : ℤ} (hlow : 2 ^ 63 ≤ n) (hhigh : n < 2 ^ 64) :
    ∃ x, (whole n).narrowed = double x ∧ Double.isFinite x ∧
      ∀ y, |Double.toRat x - n| ≤ |Double.toRat y - n| := by
  obtain ⟨m, rfl⟩ := Int.eq_ofNat_of_zero_le (a := n) (by omega)
  have hlog : m.log2 < 64 := (Nat.log2_lt (by omega)).mpr (by omega)
  obtain ⟨hfinite, -, hnearest⟩ := Double.ofNat_nearest (n := m) (by omega) (by omega)
  refine ⟨Double.ofNat m, ?_, hfinite, fun y => by exact_mod_cast hnearest y⟩
  rw [narrowed, if_neg (by omega), Int.toNat_natCast]

end Json.Number

/-- A decimal without places and without a sign becomes the double of its coefficient. -/
theorem Decimal.toDouble_of_whole {n : ℕ} (hn : n < 2 ^ 96) :
    toDouble ⟨false, n, 0, hn, by decide⟩ = Double.ofNat n := by
  rw [toDouble, Bool.false_and, if_neg (by decide), magnitudeToDouble, if_pos rfl, pow_zero,
    Nat.div_one]

namespace Value

/-! ### There and back -/

/-- An integer comes back, narrowed. -/
theorem toJson_ofJsonNumber {n : Json.Number} (h : n.IsInteger) :
    (ofJsonNumber n).toJson = .number n.narrowed := by
  cases n with
  | whole n =>
    obtain ⟨hlow, hhigh⟩ := h
    rcases lt_or_ge n (2 ^ 63) with hlt | hle
    · obtain ⟨i, rfl, hread⟩ := ofJsonNumber_of_lt hlow hlt
      rw [hread, toJson, Json.Number.narrowed, if_pos hlt]
    · obtain ⟨m, rfl⟩ := Int.eq_ofNat_of_zero_le (a := n) (by omega)
      have hm : m < 2 ^ 96 := by omega
      have hlog : m.log2 < 64 := (Nat.log2_lt (by omega)).mpr (by omega)
      obtain ⟨hfinite, -⟩ := Double.ofNat_nearest (n := m) (by omega) (by omega)
      rw [ofJsonNumber_of_le (by omega) hm, toJson, Decimal.toDouble_of_whole, if_pos hfinite,
        Json.Number.narrowed, if_neg (by omega), Int.toNat_natCast]
  | double x => exact h.elim

/-- The numbers come back one by one, and everything else as it was. -/
theorem toJson_ofJson_eq_mapNumbers {j : Json} (h : j.WellFormed Json.Number.IsInteger) :
    (ofJson j).toJson = j.mapNumbers Json.Number.narrowed := by
  induction h with
  | null | boolean | string => rfl
  | number h => exact toJson_ofJsonNumber h
  | @array items _ ih =>
    rw [ofJson_array, toJson_list, Json.mapNumbers, Json.mapNumbersItems_eq_map, List.map_map]
    exact congrArg Json.array (List.map_congr_left ih)
  | @object entries hnames _ ih =>
    -- the names are the same, so there is nothing to sort
    have hentries : (entries.map fun p => (p.1, ofJson p.2)).map (fun p => (p.1, p.2.toJson)) =
        Json.mapNumbersEntries Json.Number.narrowed entries := by
      rw [Json.mapNumbersEntries_eq_map, List.map_map]
      exact List.map_congr_left fun p hp => by rw [Function.comp_apply, ih p hp]
    have hascending : Entries.Ascending (Json.mapNumbersEntries Json.Number.narrowed entries) := by
      rw [Json.mapNumbersEntries_eq_map, Entries.Ascending, Entries.keys, List.map_map]
      exact hnames
    rw [ofJson_object, toJson_map, hentries, Entries.sorted_of_ascending hascending, Json.mapNumbers]

/-- Where all numbers are integers of the language, nothing changes. -/
theorem toJson_ofJson_eq_self {j : Json} (h : j.WellFormed Json.Number.IsSigned) :
    (ofJson j).toJson = j := by
  have hinteger := h.mono fun n => Json.Number.IsSigned.isInteger
  rw [toJson_ofJson_eq_mapNumbers hinteger,
    Json.mapNumbers_eq_self (fun n => Json.Number.narrowed_of_isSigned) h]

/-- **A document whose numbers are integers comes back with the integers from `2 ^ 63` on as the doubles
nearest to them, and otherwise as it was.** -/
theorem toJson_ofJson_of_integers {j : Json} (h : j.WellFormed Json.Number.IsInteger) :
    (ofJson j).toJson = j.mapNumbers Json.Number.narrowed ∧
      (j.WellFormed Json.Number.IsSigned → (ofJson j).toJson = j) ∧
      ∀ n : ℤ, 2 ^ 63 ≤ n → n < 2 ^ 64 → ∃ x, (Json.Number.whole n).narrowed = .double x ∧
        Double.isFinite x ∧ ∀ y, |Double.toRat x - n| ≤ |Double.toRat y - n| :=
  ⟨toJson_ofJson_eq_mapNumbers h, toJson_ofJson_eq_self, fun _ => Json.Number.narrowed_of_le⟩

/-- The least and the greatest integer come back, and the first one beyond them does not. -/
theorem toJson_ofJson_of_extremes :
    (ofJson (.object [("a", .array [.null, .number (.whole (-2 ^ 63)), .number (.whole (2 ^ 63 - 1))]),
        ("b", .number (.whole (2 ^ 63)))])).toJson =
      .object [("a", .array [.null, .number (.whole (-2 ^ 63)), .number (.whole (2 ^ 63 - 1))]),
        ("b", .number (.double (Float.ofBits 0x43E0000000000000)))] := by
  have hdouble : Double.ofNat (2 ^ 63) = Float.ofBits 0x43E0000000000000 := by decide +kernel
  have hitems : (Json.array [.null, .number (.whole (-2 ^ 63)),
      .number (.whole (2 ^ 63 - 1))]).WellFormed Json.Number.IsInteger := by
    refine .array fun j hj => ?_
    simp only [List.mem_cons, List.not_mem_nil, or_false] at hj
    rcases hj with rfl | rfl | rfl
    · exact .null
    · exact .number ⟨by norm_num, by norm_num⟩
    · exact .number ⟨by norm_num, by norm_num⟩
  have hentries : (Json.object [("a", .array [.null, .number (.whole (-2 ^ 63)),
      .number (.whole (2 ^ 63 - 1))]), ("b", .number (.whole (2 ^ 63)))]).WellFormed
        Json.Number.IsInteger := by
    refine .object (by decide) fun p hp => ?_
    simp only [List.mem_cons, List.not_mem_nil, or_false] at hp
    rcases hp with rfl | rfl
    · exact hitems
    · exact .number ⟨by norm_num, by norm_num⟩
  rw [(toJson_ofJson_of_integers hentries).1]
  simp only [Json.mapNumbers, Json.mapNumbersEntries, Json.mapNumbersItems, Json.Number.narrowed]
  -- the two ends of the range of `i64` are kept, the integer above it becomes a double
  rw [if_pos (by norm_num), if_pos (by norm_num), if_neg (by norm_num)]
  exact congrArg _ (congrArg _ (congrArg (fun x => [("b", Json.number (.double x))]) hdouble))

/-- The largest integer of the format is read as a decimal, and comes back as a double. -/
theorem toJson_ofJson_of_all_bits :
    (Json.number (.whole (2 ^ 64 - 1))).WellFormed Json.Number.IsInteger ∧
      (ofJson (.number (.whole (2 ^ 64 - 1)))).toJson =
        .number (.double (Float.ofBits 0x43F0000000000000)) ∧
      (ofJson (.number (.whole (2 ^ 64 - 1)))).toJson ≠ .number (.whole (2 ^ 64 - 1)) := by
  have hinteger : (Json.Number.whole (2 ^ 64 - 1)).IsInteger := ⟨by norm_num, by norm_num⟩
  have hdouble : Double.ofNat (2 ^ 64 - 1) = Float.ofBits 0x43F0000000000000 := by decide +kernel
  have hwritten : (ofJson (.number (.whole (2 ^ 64 - 1)))).toJson =
      .number (.double (Float.ofBits 0x43F0000000000000)) := by
    rw [ofJson, toJson_ofJsonNumber hinteger, Json.Number.narrowed, if_neg (by norm_num)]
    exact congrArg (fun x => Json.number (.double x)) hdouble
  refine ⟨.number hinteger, hwritten, ?_⟩
  rw [hwritten]
  intro h
  cases h

end Value
end ExprLang
