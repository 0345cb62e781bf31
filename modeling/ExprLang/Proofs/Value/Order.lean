import Mathlib.Data.String.Basic
import ExprLang.Proofs.Value.Equality
import ExprLang.Value.Operation

/-!
# Order of values

Numbers are ordered by their value and texts by their code points, whatever way a number is written
and whichever of the three ways of comparing is taken.  So the order is that of the atoms, which
are linearly ordered within each kind, and equality of ordered values is being the same atom.

## Main definitions

* `Value.Atom.order?` — the order of two numbers or two texts.
* `Value.Placed` — how the comparisons of two values come out.

## Main results

* `Value.order?_eq_some_iff` — the order of values is that of their atoms.
* `Value.placed_of_order?` — two values that have an order are less, equal or greater, and every
  comparison says which.
* `Value.comparisons_cohere` — **equality and order are one coherent order**.

## References

`SPEC_FULL.md`, 10.1, on equality and order; the reference's `values_equal` and `compare`.
-/

namespace ExprLang
namespace Value

/-! ### The order of atoms -/

namespace Atom

/-- The order of two numbers or of two texts. -/
def order? : Atom → Atom → Option Ordering
  | number p, number q => some (compare p q)
  | string s, string t => some (compare s t)
  | _, _ => none

/-- Only numbers are ordered among each other, and texts. -/
theorem order?_eq_some_iff {x y : Atom} {o : Ordering} :
    x.order? y = some o ↔
      (∃ p q, x = number p ∧ y = number q ∧ compare p q = o) ∨
      (∃ s t, x = string s ∧ y = string t ∧ compare s t = o) := by
  cases x <;> cases y <;> simp [order?]

theorem order?_swap {x y : Atom} {o : Ordering} (h : x.order? y = some o) :
    y.order? x = some o.swap := by
  obtain ⟨p, q, rfl, rfl, rfl⟩ | ⟨s, t, rfl, rfl, rfl⟩ := order?_eq_some_iff.mp h
  · exact congrArg some Std.OrientedCmp.eq_swap
  · exact congrArg some Std.OrientedCmp.eq_swap

theorem eq_iff_of_order? {x y : Atom} {o : Ordering} (h : x.order? y = some o) :
    x = y ↔ o = .eq := by
  obtain ⟨p, q, rfl, rfl, rfl⟩ | ⟨s, t, rfl, rfl, rfl⟩ := order?_eq_some_iff.mp h
  · rw [number.injEq, compare_eq_iff_eq]
  · rw [string.injEq, compare_eq_iff_eq]

theorem order?_trans {x y z : Atom} (hxy : x.order? y = some .lt) (hyz : y.order? z = some .lt) :
    x.order? z = some .lt := by
  obtain ⟨p, q, rfl, rfl, hpq⟩ | ⟨s, t, rfl, rfl, hst⟩ := order?_eq_some_iff.mp hxy
  · obtain ⟨q, r, ⟨⟩, rfl, hqr⟩ | ⟨_, _, ⟨⟩, -⟩ := order?_eq_some_iff.mp hyz
    exact congrArg some (Std.TransCmp.lt_trans hpq hqr)
  · obtain ⟨_, _, ⟨⟩, -⟩ | ⟨t, u, ⟨⟩, rfl, htu⟩ := order?_eq_some_iff.mp hyz
    exact congrArg some (Std.TransCmp.lt_trans hst htu)

end Atom

/-! ### The order of values -/

theorem compare_intCast (m n : ℤ) : compare (m : ℚ) n = compare m n := by
  rw [← cmp_eq_compare, ← cmp_eq_compare, Int.cast_strictMono.cmp_map_eq]

/-- Two integers, two texts and a pair with a decimal are compared in three ways, which all find the
order of the atoms. -/
theorem order?_eq_some_iff {a b : Value} {o : Ordering} :
    a.order? b = some o ↔
      ∃ x y, a.atom? = some x ∧ b.atom? = some y ∧ x.order? y = some o := by
  cases a <;> cases b <;>
    simp [order?, atom?, Atom.order?, asDecimal?, Decimal.compare_eq, compare_intCast]

theorem order?_swap {a b : Value} {o : Ordering} (h : a.order? b = some o) :
    b.order? a = some o.swap := by
  obtain ⟨x, y, ha, hb, hxy⟩ := order?_eq_some_iff.mp h
  exact order?_eq_some_iff.mpr ⟨y, x, hb, ha, Atom.order?_swap hxy⟩

theorem order?_trans {a b c : Value} (hab : a.order? b = some .lt) (hbc : b.order? c = some .lt) :
    a.order? c = some .lt := by
  obtain ⟨x, y, ha, hb, hxy⟩ := order?_eq_some_iff.mp hab
  obtain ⟨y', z, hb', hc, hyz⟩ := order?_eq_some_iff.mp hbc
  obtain rfl : y = y' := Option.some.inj (hb.symm.trans hb')
  exact order?_eq_some_iff.mpr ⟨x, z, ha, hc, Atom.order?_trans hxy hyz⟩

/-- Values that have an order are equal exactly if neither is the smaller. -/
theorem equals_iff_of_order? {a b : Value} {o : Ordering} (h : a.order? b = some o) :
    a.equals b ↔ o = .eq := by
  obtain ⟨x, y, ha, hb, hxy⟩ := order?_eq_some_iff.mp h
  rw [equals_iff_of_atom ha, hb, Option.some_inj, eq_comm]
  exact Atom.eq_iff_of_order? hxy

/-! ### The comparisons of the language -/

theorem compareFor_eq_ok_iff {op : BinaryOperator} {a b : Value} {o : Ordering} :
    compareFor op a b = .ok o ↔ a.order? b = some o := by
  unfold compareFor
  cases a.order? b <;> simp

theorem lessThan_eq_true_iff {a b : Value} :
    a.binary .lessThan b = .ok (boolean true) ↔ a.order? b = some .lt := by
  rw [← @compareFor_eq_ok_iff .lessThan, binary]
  cases compareFor .lessThan a b <;> simp [Functor.map, Except.map]

/-- Of two values one is less, or they are equal, or the other is less; every comparison comes to what
these three say. -/
structure Placed (a b : Value) (less equal greater : Bool) : Prop where
  one : [less, equal, greater].count true = 1
  lt : a.binary .lessThan b = .ok (boolean less)
  eq : a.binary .equal b = .ok (boolean equal)
  gt : b.binary .lessThan a = .ok (boolean greater)
  le : a.binary .lessThanOrEqual b = .ok (boolean (less || equal))
  ge : a.binary .greaterThanOrEqual b = .ok (boolean (greater || equal))
  greaterThan : a.binary .greaterThan b = .ok (boolean greater)

theorem placed_of_order? {a b : Value} {o : Ordering} (h : a.order? b = some o) :
    Placed a b (o == .lt) (o == .eq) (o == .gt) := by
  have hcompare : ∀ op, compareFor op a b = .ok o := fun op => compareFor_eq_ok_iff.mpr h
  have hswap : compareFor .lessThan b a = .ok o.swap := compareFor_eq_ok_iff.mpr (order?_swap h)
  have hequals : a.equals b = (o == .eq) :=
    Bool.eq_iff_iff.mpr ((equals_iff_of_order? h).trans beq_iff_eq.symm)
  constructor
  case one => cases o <;> rfl
  case lt => rw [binary, hcompare]; rfl
  case eq => rw [binary, hequals]
  case gt => rw [binary, hswap]; cases o <;> rfl
  case le => rw [binary, hcompare]; cases o <;> rfl
  case ge => rw [binary, hcompare]; cases o <;> rfl
  case greaterThan => rw [binary, hcompare]; rfl

/-- **Equality and order cohere.**  Equality is an equivalence of the values whose maps name nothing
twice, and coarser than the equality that tells integers from decimals.  Whether two values have an
order does not depend on the direction; if they have one, exactly one of less, equal and greater is
true of them and all comparisons follow from it.  Being less is transitive.

A map with a name twice would not equal itself, but no evaluation brings one about. -/
theorem comparisons_cohere :
    (∀ a : Value, a.WellFormed → a.equals a) ∧
    (∀ a b : Value, a.WellFormed → b.WellFormed → a.equals b → b.equals a) ∧
    (∀ a b c : Value, a.equals b → b.equals c → a.equals c) ∧
    (∀ a b : Value, a.identical b → a.equals b) ∧
    (∀ a b : Value, ∃ same,
      a.binary .equal b = .ok (boolean same) ∧ a.binary .notEqual b = .ok (boolean !same)) ∧
    (∀ op op' (a b : Value),
      (∃ o, compareFor op a b = .ok o) ↔ ∃ o, compareFor op' b a = .ok o) ∧
    (∀ op (a b : Value) o, compareFor op a b = .ok o →
      ∃ less equal greater, Placed a b less equal greater) ∧
    (∀ a b c : Value, a.binary .lessThan b = .ok (boolean true) →
      b.binary .lessThan c = .ok (boolean true) → a.binary .lessThan c = .ok (boolean true)) := by
  -- an operator only decides how the order is read, not whether there is one
  have hswap : ∀ op op' (a b : Value),
      (∃ o, compareFor op a b = .ok o) → ∃ o, compareFor op' b a = .ok o := by
    rintro op op' a b ⟨o, ho⟩
    exact ⟨o.swap, compareFor_eq_ok_iff.mpr (order?_swap (compareFor_eq_ok_iff.mp ho))⟩
  refine ⟨equals_refl, equals_symm, equals_trans, equals_of_identical,
    fun a b => ⟨a.equals b, rfl, rfl⟩, fun op op' a b => ⟨hswap op op' a b, hswap op' op b a⟩,
    fun op a b o ho => ?_, fun a b c hab hbc => ?_⟩
  · exact ⟨_, _, _, placed_of_order? (compareFor_eq_ok_iff.mp ho)⟩
  · rw [lessThan_eq_true_iff] at hab hbc ⊢
    exact order?_trans hab hbc

/-- A map of an integer and a list with a decimal equals the one with its entries the other way round,
in which the integer is a decimal and the decimal an integer; and 1, 1.5 and 2 are in order. -/
theorem comparisons_cohere_of_mixture :
    let two : Decimal := ⟨false, 200, 2, by decide, by decide⟩
    let oneAndHalf : Decimal := ⟨false, 15, 1, by decide, by decide⟩
    let a := map [("k", integer 1), ("items", list [decimal two, string "x"])]
    let b := map [("items", list [integer 2, string "x"]), ("k", decimal (.ofInteger 1))]
    a.WellFormed ∧ b.WellFormed ∧ a.equals b ∧ a.equals a ∧ b.equals a ∧ b.equals b ∧
      (∃ less equal greater, Placed (integer 2) (decimal two) less equal greater) ∧
      (integer 1).binary .lessThan (decimal oneAndHalf) = .ok (boolean true) ∧
      (decimal oneAndHalf).binary .lessThan (integer 2) = .ok (boolean true) ∧
      (integer 1).binary .lessThan (integer 2) = .ok (boolean true) := by
  intro two oneAndHalf a b
  obtain ⟨refl, symm, trans, -, -, -, placed, less⟩ := comparisons_cohere
  have ha : a.WellFormed := by simp [a, WellFormed, WellFormedEntries, WellFormedItems, Entries.keys]
  have hb : b.WellFormed := by simp [b, WellFormed, WellFormedEntries, WellFormedItems, Entries.keys]
  have hab : a.equals b := by decide
  have hba : b.equals a := symm a b ha hb hab
  have hlow : (integer 1).binary .lessThan (decimal oneAndHalf) = .ok (boolean true) :=
    lessThan_eq_true_iff.mpr (by decide)
  have hhigh : (decimal oneAndHalf).binary .lessThan (integer 2) = .ok (boolean true) :=
    lessThan_eq_true_iff.mpr (by decide)
  have htwo : compareFor .lessThan (integer 2) (decimal two) = .ok .eq :=
    compareFor_eq_ok_iff.mpr (by decide)
  exact ⟨ha, hb, hab, refl a ha, hba, trans b a b hba hab, placed _ _ _ _ htwo, hlow, hhigh,
    less _ _ _ hlow hhigh⟩

end Value
end ExprLang
