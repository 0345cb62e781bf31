import ExprLang.Proofs.Number.Arithmetic
import ExprLang.Proofs.Value.Exact
import ExprLang.Proofs.Value.Order

/-!
# Integers among the decimals

An integer operand may be written as a decimal instead.  Then the operation is one on decimals, which
is another implementation with bounds of its own; but what integers have for a result is a decimal, so
it is found there too, and the two results are equal in the language.  Comparisons do not see the
difference either.

## Main definitions

* `Value.forms` — the ways to write an integer as a value.

## Main results

* `Decimal.binary?_exact` — the decimal operations are exact where they can be.
* `decimalArithmetic_ofInteger` — the decimal operation has the result of the integer one.
* `Value.promotion_agrees` — **promoted operands change no result**.

## References

`SPEC_FULL.md`, 10.1, on promotion; the reference's `arithmetic` and `as_decimal`.
-/

namespace ExprLang

/-! ### Operations on decimals -/

/-- The result of an operator on decimals, if it has one. -/
def Decimal.binary? (op : BinaryOperator) (a b : Decimal) : Option Decimal :=
  match op with
  | .add => a.add? b
  | .subtract => a.sub? b
  | .multiply => a.mul? b
  | .divide => a.div? b
  | .modulo => a.rem? b
  | _ => none

theorem decimalArithmetic_of_some {op : BinaryOperator} {a b d : Decimal}
    (h : Decimal.binary? op a b = some d) : decimalArithmetic op a b = .ok d := by
  have hzero : ¬ ((op = .divide ∨ op = .modulo) ∧ b.isZero) := by
    rintro ⟨rfl | rfl, hb⟩
    · simp [Decimal.binary?, Decimal.div?, hb] at h
    · simp [Decimal.binary?, Decimal.rem?, hb] at h
  unfold Decimal.binary? at h
  cases op with
  | add | subtract | multiply => simp_all [decimalArithmetic]
  | divide | modulo =>
    have hb : b.isZero = false := by simpa using hzero
    simp_all [decimalArithmetic]
  | _ => cases h

/-- Integers have no places and less than two words, so their remainder is exact. -/
theorem rem?_ofInteger {a b r : Int64} (h : Integer.rem? a b = some r) :
    ∃ d, (Decimal.ofInteger a).rem? (.ofInteger b) = some d ∧ d.toRat = r.toInt := by
  obtain ⟨q, hq, hr⟩ := Option.bind_eq_some_iff.mp h
  have hrest : r.toInt = a.toInt.tmod b.toInt := Integer.ofInt?_eq_some_iff.mp hr
  have hb : b.toInt ≠ 0 := (Integer.div?_eq_some_iff.mp hq).1
  have hlow := Int64.le_toInt b
  have hhigh := Int64.toInt_lt b
  have hcoefficient : (Decimal.ofInteger b).coefficient ≠ 0 := Int.natAbs_ne_zero.mpr hb
  have hwords : (Decimal.ofInteger b).coefficient * 10 ^ 0 < 2 ^ 64 := by
    change b.toInt.natAbs * 10 ^ 0 < 2 ^ 64
    omega
  obtain ⟨d, hd, hrat⟩ := Decimal.rem?_exact (a := .ofInteger a) hcoefficient hwords
  refine ⟨d, hd, hrat.trans ?_⟩
  change ((((Decimal.ofInteger a).scaledBy 0).tmod ((Decimal.ofInteger b).scaledBy 0) : ℤ) : ℚ) /
    10 ^ 0 = r.toInt
  simp [Decimal.scaledBy, hrest]

/-- The exact result of an operator on numbers.  Quotients and remainders are left out, which decimals
need not have exactly. -/
def BinaryOperator.onNumbers? (op : BinaryOperator) (p q : ℚ) : Option ℚ :=
  match op with
  | .add => some (p + q)
  | .subtract => some (p - q)
  | .multiply => some (p * q)
  | _ => none

/-- What some decimal stands for is found. -/
theorem Decimal.binary?_exact {op : BinaryOperator} {a b d : Decimal}
    (h : op.onNumbers? a.toRat b.toRat = some d.toRat) :
    ∃ d', binary? op a b = some d' ∧ d'.toRat = d.toRat := by
  cases op with
  | add =>
    have hsum : d.toRat = a.toRat + b.toRat := (Option.some_inj.mp h).symm
    rw [hsum]
    exact add?_exact hsum
  | subtract =>
    have hdifference : d.toRat = a.toRat - b.toRat := (Option.some_inj.mp h).symm
    rw [hdifference]
    exact sub?_exact hdifference
  | multiply =>
    have hproduct : d.toRat = a.toRat * b.toRat := (Option.some_inj.mp h).symm
    rw [hproduct]
    exact mul?_exact hproduct
  | _ => cases h

/-- Whole numbers are added, subtracted and multiplied as numbers are. -/
theorem onNumbers?_of_onWhole? {op : BinaryOperator}
    (hop : op ∈ [BinaryOperator.add, .subtract, .multiply]) {m n k : ℤ}
    (h : op.onWhole? m n = some k) : op.onNumbers? m n = some (k : ℚ) := by
  simp only [List.mem_cons, List.not_mem_nil, or_false] at hop
  rcases hop with rfl | rfl | rfl <;> cases h <;> simp [BinaryOperator.onNumbers?]

/-- What integers have for a result, the decimals of the same numbers have. -/
theorem decimalArithmetic_ofInteger {op : BinaryOperator}
    (hop : op ∈ [BinaryOperator.add, .subtract, .multiply, .modulo]) {a b r : Int64}
    (h : Integer.binary? op a b = some r) :
    ∃ d, decimalArithmetic op (.ofInteger a) (.ofInteger b) = .ok d ∧ d.toRat = r.toInt := by
  have hfound : ∃ d, Decimal.binary? op (.ofInteger a) (.ofInteger b) = some d ∧
      d.toRat = r.toInt := by
    by_cases hmodulo : op = .modulo
    · subst hmodulo
      exact rem?_ofInteger h
    · have hwhole := (Integer.binary?_eq_some_iff hmodulo).mp h
      have hnumbers := onNumbers?_of_onWhole? (by simpa [hmodulo] using hop) hwhole
      -- the result is a decimal, since it is an integer
      rw [← Decimal.toRat_ofInteger r]
      exact Decimal.binary?_exact (by simpa using hnumbers)
  obtain ⟨d, hd, hrat⟩ := hfound
  exact ⟨d, decimalArithmetic_of_some hd, hrat⟩

namespace Value

/-! ### Promoted operands -/

/-- The ways to write an integer as a value. -/
def forms (n : Int64) : List Value := [integer n, decimal (.ofInteger n)]

theorem mem_forms {n : Int64} {v : Value} :
    v ∈ forms n ↔ v = integer n ∨ v = decimal (.ofInteger n) := by
  simp [forms]

/-- However an integer is written, it is the number. -/
theorem atom?_of_mem_forms {n : Int64} {v : Value} (h : v ∈ forms n) :
    v.atom? = some (.number n.toInt) := by
  rcases mem_forms.mp h with rfl | rfl
  · rfl
  · simp [atom?]

/-- One decimal among the operands makes the operation one on decimals. -/
theorem binary_of_mem_forms {op : BinaryOperator}
    (hop : op ∈ [BinaryOperator.add, .subtract, .multiply, .modulo]) {a b : Int64} {x y : Value}
    (hx : x ∈ forms a) (hy : y ∈ forms b) (hxy : ¬ (x = integer a ∧ y = integer b)) :
    x.binary op y = decimal <$> decimalArithmetic op (.ofInteger a) (.ofInteger b) := by
  simp only [List.mem_cons, List.not_mem_nil, or_false] at hop
  rcases mem_forms.mp hx with rfl | rfl <;> rcases mem_forms.mp hy with rfl | rfl
  · exact absurd ⟨rfl, rfl⟩ hxy
  all_goals rcases hop with rfl | rfl | rfl | rfl <;> rfl

/-- What equals an integer as a number equals it as a value, both ways round. -/
theorem equals_integer_of_toRat {d : Decimal} {r : Int64} (h : d.toRat = r.toInt) :
    (decimal d).equals (integer r) ∧ (integer r).equals (decimal d) := by
  have hd : (decimal d).atom? = some (.number r.toInt) := by rw [← h]; rfl
  have hr : (integer r).atom? = some (.number r.toInt) := rfl
  exact ⟨(equals_iff_of_atom hd _).mpr hr, (equals_iff_of_atom hr _).mpr hd⟩

/-- The order of two integers does not depend on how they are written. -/
theorem order?_of_mem_forms {a b : Int64} {x y : Value} (hx : x ∈ forms a) (hy : y ∈ forms b) :
    x.order? y = some (compare a.toInt b.toInt) := by
  refine order?_eq_some_iff.mpr ⟨_, _, atom?_of_mem_forms hx, atom?_of_mem_forms hy, ?_⟩
  rw [Atom.order?, compare_intCast]

theorem comparison_of_mem_forms {op : BinaryOperator}
    (hop : op ∈ [BinaryOperator.equal, .notEqual, .lessThan, .lessThanOrEqual, .greaterThan,
      .greaterThanOrEqual]) (a b : Int64) :
    ∃ answer, ∀ x ∈ forms a, ∀ y ∈ forms b, x.binary op y = .ok (boolean answer) := by
  -- the answer that the order gives
  have hplaced : ∀ x ∈ forms a, ∀ y ∈ forms b, Placed x y (compare a.toInt b.toInt == .lt)
      (compare a.toInt b.toInt == .eq) (compare a.toInt b.toInt == .gt) :=
    fun x hx y hy => placed_of_order? (order?_of_mem_forms hx hy)
  simp only [List.mem_cons, List.not_mem_nil, or_false] at hop
  rcases hop with rfl | rfl | rfl | rfl | rfl | rfl
  · exact ⟨_, fun x hx y hy => (hplaced x hx y hy).eq⟩
  · refine ⟨!(compare a.toInt b.toInt == .eq), fun x hx y hy => ?_⟩
    have hequals : x.equals y = (compare a.toInt b.toInt == .eq) := by
      simpa [binary] using (hplaced x hx y hy).eq
    rw [binary, hequals]
  · exact ⟨_, fun x hx y hy => (hplaced x hx y hy).lt⟩
  · exact ⟨_, fun x hx y hy => (hplaced x hx y hy).le⟩
  · exact ⟨_, fun x hx y hy => (hplaced x hx y hy).greaterThan⟩
  · exact ⟨_, fun x hx y hy => (hplaced x hx y hy).ge⟩

/-- **Promoted operands change no result.**  Where a sum, difference, product or remainder of integers
is one, it is found as well if either operand or both are decimals; the decimal that comes out equals
the integer.  A comparison has one answer for all forms of its operands. -/
theorem promotion_agrees (a b : Int64) :
    (∀ op ∈ [BinaryOperator.add, .subtract, .multiply, .modulo], ∀ r,
      (integer a).binary op (integer b) = .ok (integer r) →
        ∀ x ∈ forms a, ∀ y ∈ forms b, ¬ (x = integer a ∧ y = integer b) →
          ∃ d, x.binary op y = .ok (decimal d) ∧ (decimal d).equals (integer r) ∧
            (integer r).equals (decimal d)) ∧
    ∀ op ∈ [BinaryOperator.equal, .notEqual, .lessThan, .lessThanOrEqual, .greaterThan,
        .greaterThanOrEqual],
      ∃ answer, ∀ x ∈ forms a, ∀ y ∈ forms b, x.binary op y = .ok (boolean answer) := by
  refine ⟨fun op hop r hr x hx y hy hxy => ?_, fun op hop => comparison_of_mem_forms hop a b⟩
  have hresult : Integer.binary? op a b = some r := binary?_of_binary (by simp at hop ⊢; tauto) hr
  obtain ⟨d, hd, hrat⟩ := decimalArithmetic_ofInteger hop hresult
  refine ⟨d, ?_, equals_integer_of_toRat hrat⟩
  rw [binary_of_mem_forms hop hx hy hxy, hd]
  rfl

/-- A product that just fits is found among the decimals too; a remainder of decimals is negative with
its dividend; and the extremes of the integers are compared alike in every form. -/
theorem promotion_agrees_of_extremes :
    (∃ d, (decimal (.ofInteger (-3037000500))).binary .multiply (integer 3037000499) =
        .ok (decimal d) ∧ (decimal d).equals (integer (-9223372033963249500)) ∧
        (integer (-9223372033963249500)).equals (decimal d)) ∧
    (∃ d, (integer (-7)).binary .modulo (decimal (.ofInteger 2)) = .ok (decimal d) ∧
        (decimal d).equals (integer (-1)) ∧ (integer (-1)).equals (decimal d)) ∧
    ∃ answer, ∀ x ∈ forms Int64.minValue, ∀ y ∈ forms Int64.maxValue,
      x.binary .lessThan y = .ok (boolean answer) := by
  refine ⟨?_, ?_, (promotion_agrees Int64.minValue Int64.maxValue).2 .lessThan (by simp)⟩
  · exact (promotion_agrees (-3037000500) 3037000499).1 .multiply (by simp) _ (by rfl) _
      (by simp [forms]) _ (by simp [forms]) (by simp)
  · exact (promotion_agrees (-7) 2).1 .modulo (by simp) _ (by rfl) _ (by simp [forms]) _
      (by simp [forms]) (by simp)

end Value
end ExprLang
