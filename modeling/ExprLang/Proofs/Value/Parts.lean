import ExprLang.Proofs.Number.Rational
import ExprLang.Value

/-!
# What values are made of

A value is an atom, or a list or map of values.  Integers and decimals are atoms of one kind: what
counts is the number.

## Main definitions

* `Value.Atom`, `Value.atom?` — a value without parts, apart from how a number is written.

## Main results

* `Value.induction` — what holds of atoms and passes from parts to lists and maps holds of every
  value.
* `Value.wellFormed_list_iff`, `Value.wellFormed_map_iff` — well-formedness in terms of the parts.
-/

namespace ExprLang
namespace Value

/-- A value without parts. -/
inductive Atom
  | null
  | boolean (b : Bool)
  | number (q : ℚ)
  | string (s : String)
  deriving DecidableEq

/-- The atom that a value is, if it has no parts. -/
def atom? : Value → Option Atom
  | null => some .null
  | boolean b => some (.boolean b)
  | integer n => some (.number n.toInt)
  | decimal d => some (.number d.toRat)
  | string s => some (.string s)
  | list _ | map _ => none

/-- Induction over values, where every item of a list and every value of a map is a part. -/
@[elab_as_elim]
theorem induction {P : Value → Prop} (atom : ∀ v x, v.atom? = some x → P v)
    (list : ∀ items, (∀ v ∈ items, P v) → P (.list items))
    (map : ∀ entries, (∀ p ∈ entries, P p.2) → P (.map entries)) : ∀ v, P v
  | .null => atom _ _ rfl
  | .boolean _ => atom _ _ rfl
  | .integer _ => atom _ _ rfl
  | .decimal _ => atom _ _ rfl
  | .string _ => atom _ _ rfl
  | .list items => list items fun v _ => induction atom list map v
  | .map entries => map entries fun (k, v) hv => by
    have hentry : sizeOf (k, v) < sizeOf entries := List.sizeOf_lt_of_mem hv
    have hpart : sizeOf v < 1 + sizeOf entries := by
      rw [Prod.mk.sizeOf_spec] at hentry
      omega
    exact induction atom list map v

/-! ### Well-formed parts -/

theorem wellFormedItems_iff {items : List Value} :
    WellFormedItems items ↔ ∀ v ∈ items, v.WellFormed := by
  induction items with
  | nil => simp [WellFormedItems]
  | cons v items ih => simp [WellFormedItems, ih]

theorem wellFormedEntries_iff {entries : Entries Value} :
    WellFormedEntries entries ↔ ∀ p ∈ entries, p.2.WellFormed := by
  induction entries with
  | nil => simp [WellFormedEntries]
  | cons p entries ih => simp only [WellFormedEntries, ih, List.forall_mem_cons]

theorem wellFormed_list_iff {items : List Value} :
    (list items).WellFormed ↔ ∀ v ∈ items, v.WellFormed := by
  rw [WellFormed, wellFormedItems_iff]

theorem wellFormed_map_iff {entries : Entries Value} :
    (map entries).WellFormed ↔
      (Entries.keys entries).Nodup ∧ ∀ p ∈ entries, p.2.WellFormed := by
  rw [WellFormed, wellFormedEntries_iff]

end Value
end ExprLang
