import Mathlib.Algebra.Group.Int.Defs
import ExprLang.Proofs.Entries
import ExprLang.Json

/-!
# The documents there are

A document is a tree.  What the types do not say of it is said here: in its objects the names stand in
order, and its numbers are of a given sort.

## Main definitions

* `Json.WellFormed` — the names are in order, and the numbers of a given sort.
* `Json.Number.InRange` — a whole number fits 64 bits.
* `Json.mapNumbers` — a document with other numbers.

## Main results

* `Json.mapNumbers_eq_self` — numbers that are replaced by themselves leave the document as it is.
-/

namespace ExprLang
namespace Json

/-- A whole number fits 64 bits, with a sign or without one. -/
def Number.InRange : Number → Prop
  | whole n => -2 ^ 63 ≤ n ∧ n < 2 ^ 64
  | double _ => True

/-- Documents in whose objects the names stand in ascending order, each once, and all numbers of which
are some of `P`. -/
inductive WellFormed (P : Number → Prop) : Json → Prop
  | null : WellFormed P .null
  | boolean (b : Bool) : WellFormed P (.boolean b)
  | number {n : Number} (h : P n) : WellFormed P (.number n)
  | string (s : String) : WellFormed P (.string s)
  | array {items : List Json} (h : ∀ j ∈ items, WellFormed P j) : WellFormed P (.array items)
  | object {entries : Entries Json} (hnames : entries.Ascending)
      (h : ∀ p ∈ entries, WellFormed P p.2) : WellFormed P (.object entries)

theorem WellFormed.mono {P Q : Number → Prop} (hPQ : ∀ n, P n → Q n) {j : Json} (h : j.WellFormed P) :
    j.WellFormed Q := by
  induction h with
  | null => exact .null
  | boolean b => exact .boolean b
  | number h => exact .number (hPQ _ h)
  | string s => exact .string s
  | array _ ih => exact .array ih
  | object hnames _ ih => exact .object hnames ih

/-! ### Other numbers -/

mutual

/-- The document in which every number `n` is `f n` instead. -/
def mapNumbers (f : Number → Number) : Json → Json
  | null => null
  | boolean b => boolean b
  | number n => number (f n)
  | string s => string s
  | array items => array (mapNumbersItems f items)
  | object entries => object (mapNumbersEntries f entries)

def mapNumbersItems (f : Number → Number) : List Json → List Json
  | [] => []
  | j :: js => mapNumbers f j :: mapNumbersItems f js

def mapNumbersEntries (f : Number → Number) : List (String × Json) → List (String × Json)
  | [] => []
  | (k, j) :: rest => (k, mapNumbers f j) :: mapNumbersEntries f rest

end

theorem mapNumbersItems_eq_map (f : Number → Number) (items : List Json) :
    mapNumbersItems f items = items.map (mapNumbers f) := by
  induction items with
  | nil => rfl
  | cons j items ih => rw [mapNumbersItems, ih, List.map_cons]

theorem mapNumbersEntries_eq_map (f : Number → Number) (entries : Entries Json) :
    mapNumbersEntries f entries = entries.map fun p => (p.1, mapNumbers f p.2) := by
  induction entries with
  | nil => rfl
  | cons p entries ih => rw [mapNumbersEntries, ih, List.map_cons]

/-- Numbers that are replaced by themselves leave the document as it is. -/
theorem mapNumbers_eq_self {P : Number → Prop} {f : Number → Number} (hf : ∀ n, P n → f n = n)
    {j : Json} (h : j.WellFormed P) : j.mapNumbers f = j := by
  induction h with
  | null | boolean | string => rfl
  | number h => rw [mapNumbers, hf _ h]
  | @array items _ ih =>
    rw [mapNumbers, mapNumbersItems_eq_map, List.map_congr_left ih, List.map_id']
  | @object entries _ _ ih =>
    have hsame : ∀ p ∈ entries, (p.1, mapNumbers f p.2) = p := fun p hp => by rw [ih p hp]
    rw [mapNumbers, mapNumbersEntries_eq_map, List.map_congr_left hsame, List.map_id']

end Json
end ExprLang
