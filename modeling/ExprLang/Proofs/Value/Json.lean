import ExprLang.Proofs.Value.Exact
import ExprLang.Proofs.Number.Digits
import ExprLang.Value.Json

/-!
# Reading and writing documents part by part

Reading a document as a value, and writing a value as a document, treat items and entries one by one and
leave the names alone.  What is not the same on the two sides are the numbers: a whole one is an integer as far as
integers go, and beyond them a decimal without places.

## Main results

* `Value.ofJson_array`, `Value.ofJson_object`, `Value.toJson_list`, `Value.toJson_map` — items and entries.
* `Value.ofJsonNumber_of_lt`, `Value.ofJsonNumber_of_le` — what a whole number is read as.
-/

namespace ExprLang
namespace Value

/-! ### Parts -/

theorem ofJson_array (items : List Json) : ofJson (.array items) = list (items.map ofJson) := by
  have hitems : ofJsonItems items = items.map ofJson := by
    induction items with
    | nil => rfl
    | cons j items ih => rw [ofJsonItems, ih, List.map_cons]
  rw [ofJson, hitems]

theorem ofJsonEntries_eq_map (entries : Entries Json) :
    ofJsonEntries entries = entries.map fun p => (p.1, ofJson p.2) := by
  induction entries with
  | nil => rfl
  | cons p entries ih => rw [ofJsonEntries, ih, List.map_cons]

theorem ofJson_object (entries : Entries Json) :
    ofJson (.object entries) = map (entries.map fun p => (p.1, ofJson p.2)) := by
  rw [ofJson, ofJsonEntries_eq_map]

theorem toJson_list (items : List Value) : toJson (list items) = .array (items.map toJson) := by
  have hitems : toJsonItems items = items.map toJson := by
    induction items with
    | nil => rfl
    | cons v items ih => rw [toJsonItems, ih, List.map_cons]
  rw [toJson, hitems]

theorem toJson_map (entries : Entries Value) :
    toJson (map entries) = .object (Entries.sorted (entries.map fun p => (p.1, toJson p.2))) := by
  have hentries : toJsonEntries entries = entries.map fun p => (p.1, toJson p.2) := by
    induction entries with
    | nil => rfl
    | cons p entries ih => rw [toJsonEntries, ih, List.map_cons]
  rw [toJson, hentries]

/-! ### Whole numbers -/

theorem ofJsonNumber_of_integer {n : ℤ} {i : Int64} (h : i.toInt = n) :
    ofJsonNumber (.whole n) = integer i := by
  rw [ofJsonNumber]
  rw [Integer.ofInt?_eq_some_iff.mpr h]

theorem ofJsonNumber_of_decimal {n : ℤ} {d : Decimal} (hnone : Integer.ofInt? n = none)
    (hread : Decimal.read? (intText n).toList = some d) : ofJsonNumber (.whole n) = decimal d := by
  rw [ofJsonNumber]
  rw [hnone, Json.Number.text, hread]

/-- As far as integers go, a whole number is read as one. -/
theorem ofJsonNumber_of_lt {n : ℤ} (hlow : -2 ^ 63 ≤ n) (hhigh : n < 2 ^ 63) :
    ∃ i : Int64, i.toInt = n ∧ ofJsonNumber (.whole n) = integer i := by
  obtain ⟨i, hi⟩ := Integer.exists_eq hlow hhigh
  exact ⟨i, hi, ofJsonNumber_of_integer hi⟩

/-- Beyond the integers, a whole number is read as a decimal without places. -/
theorem ofJsonNumber_of_le {n : ℕ} (hlow : 2 ^ 63 ≤ n) (hhigh : n < 2 ^ 96) :
    ofJsonNumber (.whole n) = decimal ⟨false, n, 0, hhigh, by decide⟩ := by
  have hnone : Integer.ofInt? n = none := by
    rw [Integer.ofInt?, if_neg (by omega)]
  have hread := Decimal.read?_magnitude ⟨false, n, 0, hhigh, by decide⟩
  rw [Decimal.magnitude_of_scale_eq_zero _ rfl] at hread
  have htext : (intText n).toList = Nat.toDigits 10 n := by
    rw [intText, if_neg (by omega), Int.natAbs_natCast, String.toList_ofList]
  exact ofJsonNumber_of_decimal hnone (htext ▸ hread)

end Value
end ExprLang
