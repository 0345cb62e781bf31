import ExprLang.Proofs.Json.Documents
import ExprLang.Proofs.Number.Shortest
import ExprLang.Proofs.Value.Json
import ExprLang.Json.Parser

/-!
# Reading a document keeps its shape

A document and the value that it is read as have the same places, and what stands at a place of the document
is read as what stands there in the value.  Nothing is lost on the way but numbers for which there is
no decimal: those of `2 ^ 96` and more that are held as doubles.  Their written form does not read as a decimal, they
do not convert to one, and so they are read as null, like a null of the document.

## Main definitions

* `Selector`, `Json.at?`, `Value.at?` — what stands at a place of a document or a value.
* `Json.Number.Overflows` — the numbers for which there is no decimal.

## Main results

* `Value.at?_ofJson` — the places are the same.
* `Value.isNumeric_ofJsonNumber`, `Value.ofJsonNumber_of_overflows` — what is read as a number.
* `Value.ofJson_keeps_shape` — **at every place an array is read as a list, an object as a map, and a number
  that does not overflow as a number; nothing else than nulls and overflowing numbers is read as null**.

## References

`SPEC_FULL.md`, 10.2; the reference's values made from JSON.
-/

namespace ExprLang

/-! ### Places -/

/-- A step into a document or a value: to an item, or to what stands under a name. -/
inductive Selector
  | item (i : ℕ)
  | entry (name : String)

namespace Json

def child? : Json → Selector → Option Json
  | array items, .item i => items[i]?
  | object entries, .entry name => Entries.get? entries name
  | _, _ => none

/-- What stands at a place. -/
def at? (j : Json) : List Selector → Option Json
  | [] => some j
  | s :: path => (j.child? s).bind fun k => k.at? path

end Json

namespace Value

def child? : Value → Selector → Option Value
  | list items, .item i => items[i]?
  | map entries, .entry name => Entries.get? entries name
  | _, _ => none

/-- What stands at a place. -/
def at? (v : Value) : List Selector → Option Value
  | [] => some v
  | s :: path => (v.child? s).bind fun w => w.at? path

end Value

/-- What stands in a well-formed document is well-formed. -/
theorem Json.WellFormed.of_at? {P : Json.Number → Prop} {path : List Selector} {j k : Json}
    (h : j.WellFormed P) (hk : j.at? path = some k) : k.WellFormed P := by
  induction path generalizing j with
  | nil =>
    cases hk
    exact h
  | cons s path ih =>
    obtain ⟨i, hi, hk⟩ := Option.bind_eq_some_iff.mp hk
    refine ih ?_ hk
    -- a selector of the other kind selects nothing, in both documents
    cases h with
    | array h =>
      cases s with
      | item n => exact h i (List.mem_of_getElem? hi)
      | entry name => cases hi
    | object hnames h =>
      cases s with
      | item n => cases hi
      | entry name => exact h _ (Entries.mem_of_get? hi)
    | _ => cases s <;> cases hi

/-! ### Numbers -/

/-- A double that needs more than 96 bits before the point, for which there is no decimal. -/
def Json.Number.Overflows : Json.Number → Prop
  | whole _ => False
  | double x => 2 ^ 96 ≤ Double.magnitude x

namespace Value

theorem ofJsonNumber_double (x : Float) : ofJsonNumber (.double x) =
    match Decimal.read? (Double.chars x) with
    | some d => decimal d
    | none => ofDouble x := by
  have htext : (Json.Number.double x).text.toList = Double.chars x := String.toList_ofList
  cases h : Decimal.read? (Double.chars x) with
  | some d => simp only [ofJsonNumber, htext, h]
  | none => simp only [ofJsonNumber, htext, h]

theorem ofDouble_eq_null_iff {x : Float} : ofDouble x = null ↔ 2 ^ 96 ≤ Double.magnitude x := by
  rw [← not_lt, ← Decimal.isSome_ofDouble?_iff, ofDouble]
  cases Decimal.ofDouble? x <;> simp

theorem isNumeric_ofDouble {x : Float} (h : ofDouble x ≠ null) : (ofDouble x).isNumeric := by
  unfold ofDouble at h ⊢
  split
  · rfl
  · next hnone => exact absurd (by rw [hnone]) h

/-- A number that does not overflow is read as an integer or a decimal. -/
theorem isNumeric_ofJsonNumber {n : Json.Number} (h : n.InRange) (hn : ¬ n.Overflows) :
    (ofJsonNumber n).isNumeric := by
  cases n with
  | whole n =>
    rcases lt_or_ge n (2 ^ 63) with hlt | hle
    · obtain ⟨i, -, heq⟩ := ofJsonNumber_of_lt h.1 hlt
      rw [heq]
      rfl
    · obtain ⟨m, rfl⟩ := Int.eq_ofNat_of_zero_le (a := n) (by omega)
      have hm : m < 2 ^ 64 := by exact_mod_cast h.2
      rw [ofJsonNumber_of_le (by omega) (hm.trans (by norm_num))]
      rfl
  | double x =>
    rw [ofJsonNumber_double]
    split
    · rfl
    · exact isNumeric_ofDouble fun hnull => hn (ofDouble_eq_null_iff.mp hnull)

/-- A number that overflows is read as null. -/
theorem ofJsonNumber_of_overflows {n : Json.Number} (hn : n.Overflows) : ofJsonNumber n = null := by
  cases n with
  | whole n => exact hn.elim
  | double x =>
    rw [ofJsonNumber_double, Double.read?_chars_of_large hn]
    exact ofDouble_eq_null_iff.mpr hn

theorem child?_ofDouble (x : Float) (s : Selector) : (ofDouble x).child? s = none := by
  unfold ofDouble
  split <;> rfl

/-- Whatever a number is read as, it has no parts. -/
theorem child?_ofJsonNumber (n : Json.Number) (s : Selector) : (ofJsonNumber n).child? s = none := by
  cases n with
  | whole n =>
    rw [ofJsonNumber]
    cases Integer.ofInt? n with
    | some i => rfl
    | none =>
      cases Decimal.read? (Json.Number.whole n).text.toList with
      | some d => rfl
      | none => exact child?_ofDouble _ s
  | double x =>
    rw [ofJsonNumber_double]
    split
    · rfl
    · exact child?_ofDouble x s

/-! ### Documents -/

theorem child?_ofJson (j : Json) (s : Selector) : (ofJson j).child? s = (j.child? s).map ofJson := by
  cases j with
  | array items =>
    rw [ofJson_array]
    cases s with
    | item i => exact List.getElem?_map
    | entry name => rfl
  | object entries =>
    rw [ofJson_object]
    cases s with
    | item i => rfl
    | entry name => exact Entries.get?_map ofJson entries name
  | number n => exact child?_ofJsonNumber n s
  | _ => rfl

/-- What stands at a place of the document is read as what stands there in the value. -/
theorem at?_ofJson (j : Json) (path : List Selector) :
    (ofJson j).at? path = (j.at? path).map ofJson := by
  induction path generalizing j with
  | nil => rfl
  | cons s path ih =>
    rw [at?, child?_ofJson, Json.at?, Option.bind_map, Option.map_bind]
    exact Option.bind_congr fun k _ => ih k

/-- Nothing is read as null but nulls, and numbers that overflow. -/
theorem ofJson_eq_null_iff {j : Json} (h : j.WellFormed Json.Number.InRange) :
    ofJson j = null ↔ j = .null ∨ ∃ n, j = .number n ∧ n.Overflows := by
  cases h with
  | null => exact iff_of_true rfl (.inl rfl)
  | boolean b => exact iff_of_false nofun (by simp)
  | string s => exact iff_of_false nofun (by simp)
  | array _ =>
    rw [ofJson_array]
    exact iff_of_false nofun (by simp)
  | object _ _ =>
    rw [ofJson_object]
    exact iff_of_false nofun (by simp)
  | @number n hn =>
    by_cases hover : n.Overflows
    · exact iff_of_true (ofJsonNumber_of_overflows hover) (.inr ⟨n, rfl, hover⟩)
    -- a number within the bound is read as a number, and null is none
    · have hnumeric := isNumeric_ofJsonNumber hn hover
      refine iff_of_false (fun hnull => ?_) (by simp [hover])
      rw [show ofJsonNumber n = null from hnull] at hnumeric
      cases hnumeric

/-- **A document and what it is read as have the same places.  At each of them an array is read as a list of
as many items, an object as a map with the same names, a number that does not overflow as an integer or
a decimal, and nothing as null but a null, or a number that overflows.** -/
theorem ofJson_keeps_shape {j : Json} (h : j.WellFormed Json.Number.InRange) (path : List Selector) :
    (ofJson j).at? path = (j.at? path).map ofJson ∧
      ∀ k, j.at? path = some k →
        (ofJson k = null ↔ k = .null ∨ ∃ n, k = .number n ∧ n.Overflows) ∧
        (∀ n, k = .number n → ¬ n.Overflows → (ofJson k).isNumeric) ∧
        (∀ items, k = .array items →
          ∃ values, ofJson k = list values ∧ values.length = items.length) ∧
        ∀ entries, k = .object entries →
          ∃ m, ofJson k = map m ∧ Entries.keys m = Entries.keys entries := by
  refine ⟨at?_ofJson j path, fun k hk => ?_⟩
  have hwf := h.of_at? hk
  refine ⟨ofJson_eq_null_iff hwf, ?_, ?_, ?_⟩
  · rintro n rfl hn
    cases hwf with
    | number hrange => exact isNumeric_ofJsonNumber hrange hn
  · rintro items rfl
    exact ⟨_, ofJson_array items, List.length_map _⟩
  · rintro entries rfl
    exact ⟨_, ofJson_object entries, by rw [Entries.keys, Entries.keys, List.map_map]; rfl⟩

/-- A null stays a null, and the number beside it a number, though it is no integer of the language. -/
theorem ofJson_keeps_shape_of_items :
    (ofJson (.object [("a", .array [.null, .number (.whole (2 ^ 64 - 1))])])).at?
        [.entry "a", .item 1] = some (ofJson (.number (.whole (2 ^ 64 - 1)))) ∧
      (ofJson (.number (.whole (2 ^ 64 - 1)))).isNumeric := by
  have hitems : (Json.array [.null, .number (.whole (2 ^ 64 - 1))]).WellFormed Json.Number.InRange := by
    refine .array fun j hj => ?_
    simp only [List.mem_cons, List.not_mem_nil, or_false] at hj
    rcases hj with rfl | rfl
    · exact .null
    · exact .number ⟨by norm_num, by norm_num⟩
  have hentries : (Json.object [("a", .array [.null, .number (.whole (2 ^ 64 - 1))])]).WellFormed
      Json.Number.InRange := by
    refine .object (by decide) fun p hp => ?_
    obtain rfl := List.mem_singleton.mp hp
    exact hitems
  obtain ⟨hplace, hparts⟩ := ofJson_keeps_shape hentries [.entry "a", .item 1]
  exact ⟨hplace, (hparts _ rfl).2.1 _ rfl not_false⟩

/-- A number that the reader of documents accepts is too large for a decimal, and is read as null. -/
theorem ofJson_of_huge_number :
    (Json.number (.double (Float.ofBits 0x7E37E43C8800759C))).WellFormed Json.Number.InRange ∧
      ofJson (.number (.double (Float.ofBits 0x7E37E43C8800759C))) = null ∧
      Json.number (.double (Float.ofBits 0x7E37E43C8800759C)) ≠ .null ∧
      ((Json.parse? "1e300").map fun j => (j.compact, (ofJson j).isNull)) = some ("1e+300", true) := by
  have hnone : ¬ (Decimal.ofDouble? (Float.ofBits 0x7E37E43C8800759C)).isSome := by decide +kernel
  have hover : (Json.Number.double (Float.ofBits 0x7E37E43C8800759C)).Overflows :=
    not_lt.mp (mt Decimal.isSome_ofDouble?_iff.mpr hnone)
  refine ⟨.number trivial, ?_, nofun, by decide +kernel⟩
  rw [ofJson]
  exact ofJsonNumber_of_overflows hover

end Value
end ExprLang
