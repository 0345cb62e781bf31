import Mathlib.Data.List.Infix
import ExprLang.Proofs.Value.Exact

/-!
# Texts and lists as sequences

A text is a sequence of characters, and a list is one of values.  The operations on the two are written
apart from each other: a sum joins texts by what they show and lists by their items, sizes count
characters and items, positions are looked up in either, and a search goes through the characters of a
text but compares the items of a list.  All of them agree on one view, in which both have items; the
items of a text are the texts of one character each.

## Main definitions

* `Value.items?` — the items of a text or a list.
* `Value.Alike` — two texts or two lists.
* `Value.Tells o P` — an outcome is the truth value of `P`.
* `Value.Counts v n` — the operations on `v` agree on the number `n` of items.
* `Value.Joins a b c m n` — the operations on `c` agree that it is `a` followed by `b`.

## Main results

* `Value.exists_add` — a sum has the items of both sides.
* `Value.counts_of_items?`, `Value.joins_of_items?` — sizes and positions go by the items.
* `Value.tells_contains`, `Value.tells_contains_list` — what a search finds.
* `Value.sequences_agree` — **size, position, sum and search agree**.

## References

`SPEC_FULL.md`, 10.1, on indexing and methods; the reference's `index_value` and `call_method`.
-/

namespace ExprLang
namespace Value

/-- The items of a text, which are texts of one character each, or of a list. -/
def items? : Value → Option (List Value)
  | string s => some (s.toList.map fun c => string (String.singleton c))
  | list items => some items
  | _ => none

/-- Two texts or two lists. -/
inductive Alike : Value → Value → Prop
  | strings (s t : String) : Alike (string s) (string t)
  | lists (xs ys : List Value) : Alike (list xs) (list ys)

/-- The outcome is a truth value, and says whether `P`. -/
def Tells (o : Outcome Value) (P : Prop) : Prop := ∃ b, o = .ok (boolean b) ∧ (b = true ↔ P)

/-- The operations on a value agree on the number of its items.  The size is the integer that states this
number, whenever there is one. -/
structure Counts (v : Value) (n : ℕ) : Prop where
  size : ∀ k : Int64, v.invoke "size" [] = .ok (integer k) ↔ k.toInt = n
  isEmpty : Tells (v.invoke "isEmpty" []) (v.invoke "size" [] = .ok (integer 0))
  within : ∀ i : Int64, (∃ w, v.index (integer i) = .ok w) ↔ 0 ≤ i.toInt ∧ i.toInt < n
  outside : ∀ i : Int64, ¬ (0 ≤ i.toInt ∧ i.toInt < n) →
    v.index (integer i) = .error (.indexOutOfBounds i n)

/-- The operations on a value `c` agree that it is `a`, of `m` items, followed by `b`, of `n`. -/
structure Joins (a b c : Value) (m n : ℕ) : Prop where
  left : a.Counts m
  right : b.Counts n
  whole : c.Counts (m + n)
  before : ∀ i : Int64, i.toInt < m → ∀ w,
    c.index (integer i) = .ok w ↔ a.index (integer i) = .ok w
  after : ∀ i : Int64, m ≤ i.toInt → ∃ j : Int64, j.toInt = i.toInt - m ∧ ∀ w,
    c.index (integer i) = .ok w ↔ b.index (integer j) = .ok w

/-! ### Positions -/

section

variable {α β : Type} {xs : List α} {i : Int64} {x : α}

/-- A position that is a natural number is looked up. -/
theorem itemAt_natCast {k : ℕ} (hi : i.toInt = k) :
    itemAt xs i = xs[k]?.elim (.error (.indexOutOfBounds i xs.length)) .ok := by
  rw [itemAt, hi, if_neg (Int.not_lt.mpr (Int.natCast_nonneg k)), Int.toNat_natCast]
  cases xs[k]? <;> rfl

theorem itemAt_negative (hi : i.toInt < 0) :
    itemAt xs i = .error (.indexOutOfBounds i xs.length) := by
  rw [itemAt, if_pos hi]

theorem itemAt_eq_ok_iff : itemAt xs i = .ok x ↔ ∃ k : ℕ, i.toInt = k ∧ xs[k]? = some x := by
  by_cases hi : i.toInt < 0
  · rw [itemAt_negative hi]
    exact iff_of_false (by simp) fun ⟨k, hk, _⟩ => by omega
  · obtain ⟨k, hk⟩ := Int.eq_ofNat_of_zero_le (Int.not_lt.mp hi)
    rw [itemAt_natCast hk]
    constructor
    · intro h
      refine ⟨k, hk, ?_⟩
      cases hx : xs[k]? with
      | none => rw [hx] at h; cases h
      | some y => rw [hx] at h; cases h; rfl
    · rintro ⟨k', hk', hx⟩
      obtain rfl : k = k' := by omega
      rw [hx]
      rfl

theorem itemAt_eq_error (h : ¬ (0 ≤ i.toInt ∧ i.toInt < xs.length)) :
    itemAt xs i = .error (.indexOutOfBounds i xs.length) := by
  by_cases hi : i.toInt < 0
  · exact itemAt_negative hi
  · obtain ⟨k, hk⟩ := Int.eq_ofNat_of_zero_le (Int.not_lt.mp hi)
    rw [itemAt_natCast hk, List.getElem?_eq_none (by omega)]
    rfl

theorem exists_itemAt_iff :
    (∃ x, itemAt xs i = .ok x) ↔ 0 ≤ i.toInt ∧ i.toInt < xs.length := by
  constructor
  · rintro ⟨x, hx⟩
    obtain ⟨k, hk, hget⟩ := itemAt_eq_ok_iff.mp hx
    obtain ⟨hlt, -⟩ := List.getElem?_eq_some_iff.mp hget
    omega
  · rintro ⟨hnonneg, hlt⟩
    obtain ⟨k, hk⟩ := Int.eq_ofNat_of_zero_le hnonneg
    have hk' : k < xs.length := by omega
    exact ⟨xs[k], itemAt_eq_ok_iff.mpr ⟨k, hk, List.getElem?_eq_getElem hk'⟩⟩

/-- The item at a position of what is made of each item. -/
theorem itemAt_map (f : α → β) : itemAt (xs.map f) i = f <$> itemAt xs i := by
  unfold itemAt
  rw [List.getElem?_map, List.length_map]
  by_cases hi : i.toInt < 0
  · rw [if_pos hi, if_pos hi]
    rfl
  · rw [if_neg hi, if_neg hi]
    cases xs[i.toInt.toNat]? <;> rfl

end

/-! ### Items -/

section

variable {v a b c : Value} {xs ys : List Value}

theorem size?_of_items? (h : v.items? = some xs) : v.size? = some xs.length := by
  cases v <;> cases h
  · exact congrArg some (by rw [List.length_map, String.length_toList])
  · rfl

theorem index_of_items? (h : v.items? = some xs) (i : Int64) : v.index (integer i) = itemAt xs i := by
  cases v <;> cases h
  · exact (itemAt_map _).symm
  · rfl

theorem invoke_size_eq_ok_iff (h : v.items? = some xs) {k : Int64} :
    v.invoke "size" [] = .ok (integer k) ↔ k.toInt = xs.length := by
  have hinvoke : v.invoke "size" [] = v.apply "size" null .size := rfl
  rw [hinvoke, apply, size?_of_items? h, ← Integer.ofInt?_eq_some_iff]
  -- the bounds of the integers play no part, and are too large to be computed with
  obtain ⟨ofInt?, hofInt⟩ : ∃ f, Integer.ofInt? = f := ⟨_, rfl⟩
  rw [hofInt]
  dsimp only
  cases ofInt? xs.length <;> simp

theorem invoke_isEmpty (h : v.items? = some xs) :
    v.invoke "isEmpty" [] = .ok (boolean (xs.length == 0)) := by
  have hinvoke : v.invoke "isEmpty" [] = v.apply "isEmpty" null .isEmpty := rfl
  rw [hinvoke, apply, size?_of_items? h]

/-- Sizes and positions of a sequence go by its items. -/
theorem counts_of_items? (h : v.items? = some xs) : v.Counts xs.length where
  size _ := invoke_size_eq_ok_iff h
  isEmpty := by
    refine ⟨_, invoke_isEmpty h, ?_⟩
    rw [invoke_size_eq_ok_iff h, beq_iff_eq, Int64.toInt_zero]
    omega
  within i := by
    simp only [index_of_items? h]
    exact exists_itemAt_iff
  outside i hi := by
    rw [index_of_items? h]
    exact itemAt_eq_error hi

theorem index_eq_ok_iff (h : v.items? = some xs) {i : Int64} {w : Value} :
    v.index (integer i) = .ok w ↔ ∃ k : ℕ, i.toInt = k ∧ xs[k]? = some w := by
  rw [index_of_items? h, itemAt_eq_ok_iff]

/-- What has the items of one value and then those of another joins the two. -/
theorem joins_of_items? (ha : a.items? = some xs) (hb : b.items? = some ys)
    (hc : c.items? = some (xs ++ ys)) : Joins a b c xs.length ys.length where
  left := counts_of_items? ha
  right := counts_of_items? hb
  whole := List.length_append ▸ counts_of_items? hc
  before i hi w := by
    rw [index_eq_ok_iff hc, index_eq_ok_iff ha]
    refine exists_congr fun k => and_congr_right fun hk => ?_
    rw [List.getElem?_append_left (by omega)]
  after i hi := by
    -- the index behind the first part, counted from there, is an integer again
    obtain ⟨j, hj⟩ := Integer.exists_eq (n := i.toInt - xs.length) (by omega)
      (by have := i.toInt_lt; omega)
    refine ⟨j, hj, fun w => ?_⟩
    rw [index_eq_ok_iff hc, index_eq_ok_iff hb]
    constructor
    · rintro ⟨k, hk, hw⟩
      rw [List.getElem?_append_right (by omega)] at hw
      exact ⟨k - xs.length, by omega, hw⟩
    · rintro ⟨k, hk, hw⟩
      refine ⟨xs.length + k, by omega, ?_⟩
      rw [List.getElem?_append_right (by omega), Nat.add_sub_cancel_left]
      exact hw

/-- The sum of two texts or two lists has the items of the left one, and then those of the right
one. -/
theorem exists_add (h : Alike a b) : ∃ c xs ys, binary .add a b = .ok c ∧
    a.items? = some xs ∧ b.items? = some ys ∧ c.items? = some (xs ++ ys) := by
  cases h with
  | strings s t =>
    refine ⟨string (s ++ t), _, _, rfl, rfl, rfl, ?_⟩
    rw [items?, String.toList_append, List.map_append]
  | lists xs ys => exact ⟨list (xs ++ ys), xs, ys, rfl, rfl, rfl, rfl⟩

end

/-! ### Searching -/

theorem hasInfix_iff {needle cs : List Char} : hasInfix needle cs ↔ needle <:+: cs := by
  induction cs with
  | nil => simp [hasInfix]
  | cons c cs ih =>
    rw [hasInfix, Bool.or_eq_true, List.isPrefixOf_iff_prefix, ih, List.infix_cons_iff]

theorem tells_contains (s t : String) :
    Tells ((string s).invoke "contains" [string t]) (∃ p q, s = p ++ t ++ q) := by
  refine ⟨hasInfix t.toList s.toList, rfl, hasInfix_iff.trans ?_⟩
  constructor
  · rintro ⟨p, q, h⟩
    refine ⟨String.ofList p, String.ofList q, String.toList_inj.mp ?_⟩
    simp [h]
  · rintro ⟨p, q, rfl⟩
    exact ⟨p.toList, q.toList, by simp⟩

theorem tells_startsWith (s t : String) :
    Tells ((string s).invoke "startsWith" [string t]) (∃ q, s = t ++ q) := by
  refine ⟨t.toList.isPrefixOf s.toList, rfl, List.isPrefixOf_iff_prefix.trans ?_⟩
  constructor
  · rintro ⟨q, h⟩
    exact ⟨String.ofList q, String.toList_inj.mp (by simp [h])⟩
  · rintro ⟨q, rfl⟩
    exact ⟨q.toList, by simp⟩

theorem tells_endsWith (s t : String) :
    Tells ((string s).invoke "endsWith" [string t]) (∃ p, s = p ++ t) := by
  refine ⟨t.toList.isSuffixOf s.toList, rfl, List.isSuffixOf_iff_suffix.trans ?_⟩
  constructor
  · rintro ⟨p, h⟩
    exact ⟨String.ofList p, String.toList_inj.mp (by simp [h])⟩
  · rintro ⟨p, rfl⟩
    exact ⟨p.toList, by simp⟩

theorem binary_equal_iff {v x : Value} : binary .equal v x = .ok (boolean true) ↔ v.equals x := by
  rw [binary, Except.ok.injEq, boolean.injEq]

/-- A list is searched for what equals the argument. -/
theorem tells_contains_list (xs : List Value) (x : Value) :
    Tells ((list xs).invoke "contains" [x]) (∃ v ∈ xs, binary .equal v x = .ok (boolean true)) := by
  refine ⟨xs.any fun v => v.equals x, rfl, ?_⟩
  simp only [List.any_eq_true, binary_equal_iff]

/-- The items of a list are those at the positions that an integer can state, as long as an integer can
state all of them. -/
theorem mem_iff_exists_index {xs : List Value} (hxs : xs.length ≤ 2 ^ 63) {v : Value} :
    v ∈ xs ↔ ∃ i, (list xs).index (integer i) = .ok v := by
  simp only [index_eq_ok_iff (v := list xs) rfl]
  constructor
  · intro hv
    obtain ⟨k, hk⟩ := List.mem_iff_getElem?.mp hv
    obtain ⟨hlt, -⟩ := List.getElem?_eq_some_iff.mp hk
    obtain ⟨i, hi⟩ := Integer.exists_eq (n := k) (by omega) (by omega)
    exact ⟨i, k, hi, hk⟩
  · rintro ⟨i, k, -, hk⟩
    exact List.mem_of_getElem? hk

/-! ### All of them -/

/-- **The operations on texts and lists agree on one view of them as sequences.**  A sum has the items of
its left side and then those of its right one, by size, by emptiness and at every position; a position is
one exactly within the size, and is else out of bounds.  A text contains, begins with or ends with another
exactly if it is put together from it so, and a list contains what equals one of its items, which are the
values at its positions. -/
theorem sequences_agree :
    (∀ a b : Value, Alike a b → ∃ c m n, binary .add a b = .ok c ∧ Joins a b c m n) ∧
    (∀ s t : String,
      Tells ((string s).invoke "contains" [string t]) (∃ p q, s = p ++ t ++ q) ∧
      Tells ((string s).invoke "startsWith" [string t]) (∃ q, s = t ++ q) ∧
      Tells ((string s).invoke "endsWith" [string t]) (∃ p, s = p ++ t)) ∧
    ∀ (xs : List Value) (x : Value),
      Tells ((list xs).invoke "contains" [x])
        (∃ v ∈ xs, binary .equal v x = .ok (boolean true)) ∧
      (xs.length ≤ 2 ^ 63 → Tells ((list xs).invoke "contains" [x])
        (∃ i v, (list xs).index (integer i) = .ok v ∧ binary .equal v x = .ok (boolean true))) := by
  refine ⟨fun a b h => ?_, fun s t => ⟨tells_contains s t, tells_startsWith s t, tells_endsWith s t⟩,
    fun xs x => ⟨tells_contains_list xs x, fun hxs => ?_⟩⟩
  · obtain ⟨c, xs, ys, hadd, ha, hb, hc⟩ := exists_add h
    exact ⟨c, xs.length, ys.length, hadd, joins_of_items? ha hb hc⟩
  -- an element of a list that integers can count stands at some index
  · obtain ⟨yes, hyes, hiff⟩ := tells_contains_list xs x
    refine ⟨yes, hyes, hiff.trans ?_⟩
    simp only [mem_iff_exists_index hxs]
    exact ⟨fun ⟨v, ⟨i, hi⟩, hv⟩ => ⟨i, v, hi, hv⟩, fun ⟨i, v, hi, hv⟩ => ⟨v, ⟨i, hi⟩, hv⟩⟩

/-- Two texts whose characters take up one byte and two, and a list that holds an integer and is searched
for a decimal. -/
theorem sequences_agree_umlauts :
    (∃ m n, Joins (string "aä") (string "ö") (string "aäö") m n) ∧
    [null, integer 1].length ≤ 2 ^ 63 ∧
    ∃ i v, (list [null, integer 1]).index (integer i) = .ok v ∧
      binary .equal v (decimal ⟨false, 100, 2, by decide, by decide⟩) = .ok (boolean true) := by
  refine ⟨?_, by decide, ?_⟩
  · obtain ⟨c, m, n, hadd, hc⟩ := sequences_agree.1 _ _ (.strings "aä" "ö")
    cases hadd
    exact ⟨m, n, hc⟩
  · obtain ⟨yes, hyes, hiff⟩ := (sequences_agree.2.2 [null, integer 1]
      (decimal ⟨false, 100, 2, by decide, by decide⟩)).2 (by decide)
    have hfound : (list [null, integer 1]).invoke "contains"
        [decimal ⟨false, 100, 2, by decide, by decide⟩] = .ok (boolean true) := rfl
    rw [hfound] at hyes
    cases hyes
    exact hiff.mp rfl

end Value
end ExprLang
