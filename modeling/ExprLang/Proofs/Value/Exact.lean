import Mathlib.Data.Rat.Floor
import ExprLang.Value.Operation

/-!
# Arithmetic on integers is exact

An operator on integers is the operation on whole numbers, and where the result is no integer of the
language there is an error.  The quotient is the rational one cut toward zero, so a remainder takes
the sign of the dividend, and quotient and remainder together give the dividend back without leaving
the range on the way.

## Main definitions

* `cut` — a rational number without its places.
* `BinaryOperator.onWhole?` — the exact result of an operator on whole numbers.
* `Value.Exact` — an outcome is a given whole number, or an error if that is no integer.

## Main results

* `cut_div` — the quotient of whole numbers cut toward zero.
* `Integer.exists_eq` — the whole numbers in the range are integers.
* `Value.integer_arithmetic_exact` — **arithmetic on integers is exact or fails**.

## References

`SPEC_FULL.md`, 10.1, on checked arithmetic; the reference's `integer_arithmetic`.
-/

namespace ExprLang

/-! ### Quotients -/

/-- A rational number cut toward zero. -/
def cut (q : ℚ) : ℤ := if 0 ≤ q then ⌊q⌋ else ⌈q⌉

theorem cut_neg (q : ℚ) : cut (-q) = -cut q := by
  unfold cut
  rcases lt_trichotomy q 0 with hq | rfl | hq
  · rw [if_pos (by linarith), if_neg (by linarith), Int.floor_neg]
  · simp
  · rw [if_neg (by linarith), if_pos (by linarith), Int.ceil_neg]

theorem cut_natCast_div (m n : ℕ) : cut (m / n) = ((m / n : ℕ) : ℤ) := by
  have hnonneg : (0 : ℚ) ≤ m / n := by positivity
  rw [cut, if_pos hnonneg, Rat.floor_natCast_div_natCast]
  rfl

/-- Cutting goes by the magnitudes, so the signs can be taken off first. -/
theorem cut_div (a b : ℤ) : cut (a / b) = a.tdiv b := by
  obtain ⟨m, rfl | rfl⟩ := a.eq_nat_or_neg <;> obtain ⟨n, rfl | rfl⟩ := b.eq_nat_or_neg
  · simpa using cut_natCast_div m n
  · have h : ((m : ℤ) : ℚ) / ((-(n : ℤ) : ℤ) : ℚ) = -((m : ℚ) / n) := by push_cast; ring
    rw [h, cut_neg, cut_natCast_div, Int.tdiv_neg, Int.ofNat_tdiv]
  · have h : ((-(m : ℤ) : ℤ) : ℚ) / ((n : ℤ) : ℚ) = -((m : ℚ) / n) := by push_cast; ring
    rw [h, cut_neg, cut_natCast_div, Int.neg_tdiv, Int.ofNat_tdiv]
  · have h : ((-(m : ℤ) : ℤ) : ℚ) / ((-(n : ℤ) : ℤ) : ℚ) = (m : ℚ) / n := by push_cast; ring
    rw [h, cut_natCast_div, Int.neg_tdiv, Int.tdiv_neg, neg_neg, Int.ofNat_tdiv]

/-! ### Exact results -/

/-- The exact result of an operator on whole numbers, if it has one. -/
def BinaryOperator.onWhole? (op : BinaryOperator) (a b : ℤ) : Option ℤ :=
  match op with
  | .add => some (a + b)
  | .subtract => some (a - b)
  | .multiply => some (a * b)
  | .divide => if b = 0 then none else some (cut (a / b))
  | _ => none

namespace Integer

/-- The whole numbers in the range are integers. -/
theorem exists_eq {n : ℤ} (hlow : -2 ^ 63 ≤ n) (hhigh : n < 2 ^ 63) : ∃ i : Int64, i.toInt = n :=
  ⟨Int64.ofInt n, Int64.toInt_ofInt_of_le hlow hhigh⟩

theorem toInt_eq_zero_iff {a : Int64} : a.toInt = 0 ↔ a = 0 := by
  rw [← Int64.toInt_zero, Int64.toInt_inj]

theorem div?_eq_some_iff {a b q : Int64} :
    div? a b = some q ↔ b.toInt ≠ 0 ∧ q.toInt = a.toInt.tdiv b.toInt := by
  unfold div?
  split
  · rename_i hb
    simp [hb]
  · rename_i hb
    rw [ofInt?_eq_some_iff, Ne, toInt_eq_zero_iff]
    exact (and_iff_right hb).symm

/-- The result of an operator on integers, if it has one. -/
def binary? (op : BinaryOperator) (a b : Int64) : Option Int64 :=
  match op with
  | .add => add? a b
  | .subtract => sub? a b
  | .multiply => mul? a b
  | .divide => div? a b
  | .modulo => rem? a b
  | _ => none

/-- Apart from remainders, a result is the exact one. -/
theorem binary?_eq_some_iff {op : BinaryOperator} (hop : op ≠ .modulo) {a b r : Int64} :
    binary? op a b = some r ↔ op.onWhole? a.toInt b.toInt = some r.toInt := by
  cases op with
  | modulo => exact absurd rfl hop
  | add | subtract | multiply =>
    exact ofInt?_eq_some_iff.trans (eq_comm.trans (Option.some_inj).symm)
  | divide =>
    rw [binary?, div?_eq_some_iff, BinaryOperator.onWhole?, cut_div]
    split
    · rename_i hb
      simp [hb]
    · rename_i hb
      rw [Option.some_inj, eq_comm]
      exact and_iff_right hb
  | _ => simp [binary?, BinaryOperator.onWhole?]

end Integer

theorem integerArithmetic_eq (op : BinaryOperator) (a b : Int64) :
    integerArithmetic op a b =
      if (op = .divide ∨ op = .modulo) ∧ b = 0 then .error (.arithmetic .divisionByZero)
      else match Integer.binary? op a b with
        | some n => .ok n
        | none => .error (.arithmetic (.integerOverflow a op b)) := rfl

theorem integerArithmetic_of_some {op : BinaryOperator} {a b r : Int64}
    (h : Integer.binary? op a b = some r) : integerArithmetic op a b = .ok r := by
  -- what has a result is no division by zero
  have hzero : ¬ ((op = .divide ∨ op = .modulo) ∧ b = 0) := by
    rintro ⟨rfl | rfl, rfl⟩ <;> cases h
  rw [integerArithmetic_eq, if_neg hzero, h]

/-- Whatever has no result is an arithmetic error. -/
theorem integerArithmetic_of_none {op : BinaryOperator} {a b : Int64}
    (h : Integer.binary? op a b = none) :
    ∃ cause, integerArithmetic op a b = .error (.arithmetic cause) := by
  rw [integerArithmetic_eq, h]
  split
  · exact ⟨_, rfl⟩
  · exact ⟨_, rfl⟩

namespace Value

/-- An outcome is the exact result if that is an integer.  If there is none, or it lies outside of the
range of the integers, the outcome is an arithmetic error. -/
structure Exact (exact : Option ℤ) (outcome : Outcome Value) : Prop where
  ok : ∀ v, outcome = .ok v ↔ ∃ r : Int64, v = integer r ∧ exact = some r.toInt
  error : (∀ n, exact = some n → n < -2 ^ 63 ∨ 2 ^ 63 ≤ n) →
    ∃ cause, outcome = .error (.arithmetic cause)

/-- A result that is there exactly if the exact one is an integer makes an exact outcome. -/
theorem exact_of_result {exact : Option ℤ} {result : Option Int64} {outcome : Outcome Value}
    (hexact : ∀ r, result = some r ↔ exact = some r.toInt)
    (hsome : ∀ r, result = some r → outcome = .ok (integer r))
    (hnone : result = none → ∃ cause, outcome = .error (.arithmetic cause)) :
    Exact exact outcome := by
  cases hresult : result with
  | some r =>
    -- with a result it is the exact one, and in range
    have hr : exact = some r.toInt := (hexact r).mp hresult
    rw [hsome r hresult, hr]
    constructor
    · intro v
      simp only [Except.ok.injEq, Option.some_inj, Int64.toInt_inj]
      exact ⟨fun h => ⟨r, h.symm, rfl⟩, fun ⟨r', hv, hr'⟩ => by rw [hv, hr']⟩
    · intro hrange
      have hlow := Int64.le_toInt r
      have hhigh := Int64.toInt_lt r
      have hout := hrange _ rfl
      omega
  | none =>
    -- without one the exact result is out of range, or there is none
    obtain ⟨cause, herror⟩ := hnone hresult
    constructor
    · intro v
      rw [herror]
      constructor
      · intro hv
        cases hv
      · rintro ⟨r, -, hr⟩
        rw [(hexact r).mpr hr] at hresult
        cases hresult
    · intro _
      exact ⟨cause, herror⟩

theorem binary_integers {op : BinaryOperator}
    (hop : op ∈ [BinaryOperator.add, .subtract, .multiply, .divide, .modulo]) (a b : Int64) :
    (integer a).binary op (integer b) = integer <$> integerArithmetic op a b := by
  simp only [List.mem_cons, List.not_mem_nil, or_false] at hop
  rcases hop with rfl | rfl | rfl | rfl | rfl <;> rfl

/-- Only a result makes an operator succeed. -/
theorem binary?_of_binary {op : BinaryOperator}
    (hop : op ∈ [BinaryOperator.add, .subtract, .multiply, .divide, .modulo]) {a b r : Int64}
    (h : (integer a).binary op (integer b) = .ok (integer r)) : Integer.binary? op a b = some r := by
  rw [binary_integers hop] at h
  cases hresult : Integer.binary? op a b with
  | some r' =>
    rw [integerArithmetic_of_some hresult] at h
    cases h
    rfl
  | none =>
    obtain ⟨cause, herror⟩ := integerArithmetic_of_none hresult
    rw [herror] at h
    cases h

theorem exact_binary {op : BinaryOperator}
    (hop : op ∈ [BinaryOperator.add, .subtract, .multiply, .divide]) (a b : Int64) :
    Exact (op.onWhole? a.toInt b.toInt) ((integer a).binary op (integer b)) := by
  have hmodulo : op ≠ .modulo := by
    rintro rfl
    simp at hop
  have hbinary := binary_integers (List.mem_append_left [.modulo] hop) a b
  refine exact_of_result (fun r => Integer.binary?_eq_some_iff hmodulo) ?_ ?_
  · intro r hr
    rw [hbinary, integerArithmetic_of_some hr]
    rfl
  · intro hnone
    obtain ⟨cause, herror⟩ := integerArithmetic_of_none hnone
    rw [hbinary, herror]
    exact ⟨cause, rfl⟩

theorem exact_negate (a : Int64) : Exact (some (-a.toInt)) ((integer a).unary .negate) := by
  refine @exact_of_result _ (Integer.neg? a) _ ?_ ?_ ?_
  · intro r
    rw [Integer.neg?, Integer.ofInt?_eq_some_iff, Option.some_inj, eq_comm]
  · intro r hr
    rw [unary, negate, hr]
  · intro hnone
    rw [unary, negate, hnone]
    exact ⟨_, rfl⟩

/-! ### Remainders -/

/-- What is left of a dividend has its sign, and is nearer to zero than the divisor. -/
theorem tmod_bounds (a : ℤ) {b : ℤ} (hb : b ≠ 0) :
    |a.tmod b| < |b| ∧ (a.tmod b = 0 ∨ (a.tmod b).sign = a.sign) := by
  have hlt : (a.tmod b).natAbs < b.natAbs := by
    rw [Int.natAbs_tmod]
    exact Nat.mod_lt _ (Int.natAbs_pos.mpr hb)
  refine ⟨by rwa [Int.abs_eq_natAbs, Int.abs_eq_natAbs, Nat.cast_lt], ?_⟩
  rw [Int.sign_tmod]
  by_cases hdvd : b ∣ a
  · exact .inl (Int.tmod_eq_zero_of_dvd hdvd)
  · exact .inr (if_neg hdvd)

/-- A remainder lies between zero and the dividend. -/
theorem tmod_between (a b : ℤ) :
    (0 ≤ a → 0 ≤ a.tmod b ∧ a.tmod b ≤ a) ∧ (a ≤ 0 → a ≤ a.tmod b ∧ a.tmod b ≤ 0) := by
  have hle : (a.tmod b).natAbs ≤ a.natAbs := by
    rw [Int.natAbs_tmod]
    exact Nat.mod_le _ _
  constructor
  · intro ha
    have hnonneg := Int.tmod_nonneg b ha
    omega
  · intro ha
    have hnonneg := Int.tmod_nonneg b (Int.neg_nonneg_of_nonpos ha)
    rw [Int.neg_tmod] at hnonneg
    omega

/-- **Arithmetic on integers is exact or fails.**  A sum, difference, product, quotient cut toward
zero or negation is the exact one; it is an error if there is none or it is beyond the range.  Where
there is a quotient there is a remainder, which is nearer to zero than the divisor and has the sign of
the dividend; with the product of quotient and divisor it makes the dividend again, and neither step
leaves the range. -/
theorem integer_arithmetic_exact (a b : Int64) :
    (∀ op ∈ [BinaryOperator.add, .subtract, .multiply, .divide],
      Exact (op.onWhole? a.toInt b.toInt) ((integer a).binary op (integer b))) ∧
    Exact (some (-a.toInt)) ((integer a).unary .negate) ∧
    ∀ q, (integer a).binary .divide (integer b) = .ok (integer q) →
      ∃ r p, (integer a).binary .modulo (integer b) = .ok (integer r) ∧
        (integer q).binary .multiply (integer b) = .ok (integer p) ∧
        (integer p).binary .add (integer r) = .ok (integer a) ∧
        q.toInt * b.toInt + r.toInt = a.toInt ∧ |r.toInt| < |b.toInt| ∧
        (r.toInt = 0 ∨ r.toInt.sign = a.toInt.sign) := by
  refine ⟨fun op hop => exact_binary hop a b, exact_negate a, fun q hq => ?_⟩
  obtain ⟨q', hq', hexact⟩ := ((exact_binary (by simp) a b).ok _).mp hq
  cases hq'
  have hresult : Integer.div? a b = some q :=
    (Integer.binary?_eq_some_iff (by simp)).mpr hexact
  obtain ⟨hb, hquotient⟩ := Integer.div?_eq_some_iff.mp hresult
  have hwhole : q.toInt * b.toInt + a.toInt.tmod b.toInt = a.toInt := by
    rw [hquotient, Int.mul_comm]
    exact Int.mul_tdiv_add_tmod _ _
  -- both parts of the dividend lie between zero and the dividend
  have hlow := Int64.le_toInt a
  have hhigh := Int64.toInt_lt a
  obtain ⟨hpos, hneg⟩ := tmod_between a.toInt b.toInt
  obtain ⟨r, hr⟩ : ∃ r : Int64, r.toInt = a.toInt.tmod b.toInt :=
    Integer.exists_eq (by omega) (by omega)
  obtain ⟨p, hp⟩ : ∃ p : Int64, p.toInt = q.toInt * b.toInt :=
    Integer.exists_eq (by omega) (by omega)
  obtain ⟨hlt, hsign⟩ := tmod_bounds a.toInt hb
  rw [← hr] at hwhole hlt hsign
  refine ⟨r, p, ?_, ?_, ?_, hwhole, hlt, hsign⟩
  · have hrem : Integer.binary? .modulo a b = some r := by
      rw [Integer.binary?, Integer.rem?, hresult, Option.bind_some, Integer.ofInt?_eq_some_iff, hr]
    rw [binary_integers (by simp), integerArithmetic_of_some hrem]
    rfl
  · refine ((exact_binary (by simp) q b).ok _).mpr ⟨p, rfl, ?_⟩
    rw [BinaryOperator.onWhole?, hp]
  · refine ((exact_binary (by simp) p r).ok _).mpr ⟨a, rfl, ?_⟩
    rw [BinaryOperator.onWhole?, hp, hwhole]

/-- The least integer cannot be divided by minus one nor negated, and a remainder by two is negative if
the dividend is. -/
theorem integer_arithmetic_exact_of_extremes :
    (∃ cause, (integer Int64.minValue).binary .divide (integer (-1)) =
      .error (.arithmetic cause)) ∧
    (∃ cause, (integer Int64.minValue).unary .negate = .error (.arithmetic cause)) ∧
    ∃ r p, (integer (-7)).binary .modulo (integer 2) = .ok (integer r) ∧
      (integer (-3)).binary .multiply (integer 2) = .ok (integer p) ∧
      (integer p).binary .add (integer r) = .ok (integer (-7)) ∧ -3 * 2 + r.toInt = -7 ∧
      |r.toInt| < 2 ∧ (r.toInt = 0 ∨ r.toInt.sign = -1) := by
  -- the least integer has no negative and no quotient by -1: both are 2 ^ 63
  obtain ⟨hexact, hnegate, -⟩ := integer_arithmetic_exact Int64.minValue (-1)
  refine ⟨(hexact .divide (by simp)).error ?_, hnegate.error ?_, ?_⟩
  · intro n hn
    have hquotient : n = 2 ^ 63 := by
      rw [BinaryOperator.onWhole?, cut_div] at hn
      exact (Option.some_inj.mp hn).symm.trans (by decide)
    omega
  · intro n hn
    have hnegation : n = 2 ^ 63 := (Option.some_inj.mp hn).symm.trans (by decide)
    omega
  · exact (integer_arithmetic_exact (-7) 2).2.2 (-3) (by rfl)

end Value

end ExprLang
