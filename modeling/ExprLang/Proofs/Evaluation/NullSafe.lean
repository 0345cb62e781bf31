import ExprLang.Proofs.Evaluation.Monotone

/-!
# Null-safe navigation

A dot in front of a member can be written so that it passes null on instead of failing.  Where the
navigation has succeeded its base was not null, and both kinds of dot do the same.  So an expression
keeps its value if dots are made null-safe, any number of them anywhere: a part of it can come to
another outcome only where it has failed, and a value is made of values only.

If all dots are null-safe, null is a mistake in front of brackets and nowhere else.

## Main definitions

* `Safer e e'` — the expression `e'` is `e` with some of its dots made null-safe.
* `Expr.nullSafe` — the expression with all dots made null-safe.
* `Outcome.Raises x P` — what holds of the error of an outcome, if it is one.

## Main results

* `Safer.kept` — values are kept.
* `Expr.nullSafe_raises` — what the errors are that are left.
* `eval_safer` — **null-safe navigation is a conservative extension.**

## References

`SPEC_FULL.md`, 10.1, on `?.`; the reference's `property` and `evaluate_method_call`.
-/

namespace ExprLang

/-! ### Null-safe dots -/

mutual

/-- The second expression is the first one with some of the dots in front of members made null-safe;
those that are so stay so. -/
inductive Safer : Expr → Expr → Prop
  | literal (value : Literal) : Safer (.literal value) (.literal value)
  | identifier (name : String) : Safer (.identifier name) (.identifier name)
  | binding (name : String) : Safer (.binding name) (.binding name)
  | component (name : String) : Safer (.component name) (.component name)
  | property {base base' : Expr} {nullSafe nullSafe' : Bool} (name : String)
    (hbase : Safer base base') (hdot : nullSafe = true → nullSafe' = true) :
    Safer (.property base name nullSafe) (.property base' name nullSafe')
  | call {base base' : Expr} {arguments arguments' : List Expr} {nullSafe nullSafe' : Bool}
    (method : String) (hbase : Safer base base') (harguments : AllSafer arguments arguments')
    (hdot : nullSafe = true → nullSafe' = true) :
    Safer (.call base method arguments nullSafe) (.call base' method arguments' nullSafe')
  | index {base base' position position' : Expr} (hbase : Safer base base')
    (hposition : Safer position position') : Safer (.index base position) (.index base' position')
  | binary {left left' right right' : Expr} (op : BinaryOperator) (hleft : Safer left left')
    (hright : Safer right right') : Safer (.binary op left right) (.binary op left' right')
  | unary {operand operand' : Expr} (op : UnaryOperator) (h : Safer operand operand') :
    Safer (.unary op operand) (.unary op operand')
  | conditional {condition condition' whenTrue whenTrue' whenFalse whenFalse' : Expr}
    (hcondition : Safer condition condition') (htrue : Safer whenTrue whenTrue')
    (hfalse : Safer whenFalse whenFalse') :
    Safer (.conditional condition whenTrue whenFalse) (.conditional condition' whenTrue' whenFalse')
  | elvis {value value' fallback fallback' : Expr} (hvalue : Safer value value')
    (hfallback : Safer fallback fallback') : Safer (.elvis value fallback) (.elvis value' fallback')
  | list {items items' : List Expr} (hitems : AllSafer items items') :
    Safer (.list items) (.list items')

/-- The same of several expressions, one by one. -/
inductive AllSafer : List Expr → List Expr → Prop
  | nil : AllSafer [] []
  | cons {e e' : Expr} {es es' : List Expr} (h : Safer e e') (hs : AllSafer es es') :
    AllSafer (e :: es) (e' :: es')

end

mutual

/-- The expression with all dots in front of members made null-safe. -/
def Expr.nullSafe : Expr → Expr
  | .literal value => .literal value
  | .identifier name => .identifier name
  | .binding name => .binding name
  | .component name => .component name
  | .property base name _ => .property base.nullSafe name true
  | .call base method arguments _ => .call base.nullSafe method (allNullSafe arguments) true
  | .index base position => .index base.nullSafe position.nullSafe
  | .binary op left right => .binary op left.nullSafe right.nullSafe
  | .unary op operand => .unary op operand.nullSafe
  | .conditional condition whenTrue whenFalse =>
    .conditional condition.nullSafe whenTrue.nullSafe whenFalse.nullSafe
  | .elvis value fallback => .elvis value.nullSafe fallback.nullSafe
  | .list items => .list (allNullSafe items)

/-- Several expressions with all dots made null-safe. -/
def allNullSafe : List Expr → List Expr
  | [] => []
  | e :: es => e.nullSafe :: allNullSafe es

end

mutual

theorem Expr.safer_nullSafe : ∀ e : Expr, Safer e e.nullSafe
  | .literal value => .literal value
  | .identifier name => .identifier name
  | .binding name => .binding name
  | .component name => .component name
  | .property base name _ => .property name base.safer_nullSafe fun _ => rfl
  | .call base method arguments _ =>
    .call method base.safer_nullSafe (allSafer_allNullSafe arguments) fun _ => rfl
  | .index base position => .index base.safer_nullSafe position.safer_nullSafe
  | .binary op left right => .binary op left.safer_nullSafe right.safer_nullSafe
  | .unary op operand => .unary op operand.safer_nullSafe
  | .conditional condition whenTrue whenFalse =>
    .conditional condition.safer_nullSafe whenTrue.safer_nullSafe whenFalse.safer_nullSafe
  | .elvis value fallback => .elvis value.safer_nullSafe fallback.safer_nullSafe
  | .list items => .list (allSafer_allNullSafe items)

theorem allSafer_allNullSafe : ∀ es : List Expr, AllSafer es (allNullSafe es)
  | [] => .nil
  | e :: es => .cons e.safer_nullSafe (allSafer_allNullSafe es)

end

/-! ### Values are kept -/

/-- Only null tells the two kinds of dot apart, and there the plain one fails. -/
theorem Value.property_kept {nullSafe nullSafe' : Bool} (hdot : nullSafe = true → nullSafe' = true)
    (name : String) (v : Value) :
    Outcome.Kept (if nullSafe && v.isNull then pure Value.null else v.property name)
      (if nullSafe' && v.isNull then pure Value.null else v.property name) := by
  intro w hw
  cases hnull : v.isNull with
  | false => simpa [hnull] using hw
  | true =>
    cases nullSafe with
    | true => simpa [hnull, hdot rfl] using hw
    | false =>
      obtain rfl : v = null := by cases v <;> first | rfl | cases hnull
      cases hw

/-- On null a call fails before its arguments are evaluated, or ends there with null. -/
theorem Value.call_kept {nullSafe nullSafe' : Bool} (hdot : nullSafe = true → nullSafe' = true)
    (method : String) (receiver : Value) {arguments arguments' : Outcome (List Value)}
    (h : arguments.Kept arguments') :
    Outcome.Kept
      (if receiver.isNull then
        if nullSafe then pure Value.null else throw (.nullReference (.call method))
      else arguments >>= receiver.invoke method)
      (if receiver.isNull then
        if nullSafe' then pure Value.null else throw (.nullReference (.call method))
      else arguments' >>= receiver.invoke method) := by
  -- only a null receiver tells the two calls apart
  cases receiver.isNull with
  | false => exact h.bind fun _ => .refl _
  | true =>
    cases nullSafe with
    | true =>
      rw [hdot rfl]
      exact .refl _
    -- an unsafe call on null has no value, so there is nothing to keep
    | false => exact fun w hw => nomatch hw

section

variable {c : Context}

mutual

/-- An expression keeps its value if some of its dots are made null-safe. -/
theorem Safer.kept : ∀ {e e' : Expr}, Safer e e' → (e.eval c).Kept (e'.eval c)
  | _, _, .literal _ | _, _, .identifier _ | _, _, .binding _ | _, _, .component _ => .refl _
  | _, _, .property name hbase hdot => by
    rw [Expr.eval, Expr.eval, Expr.evalIn, Expr.evalIn]
    exact hbase.kept.bind fun v => v.property_kept hdot name
  | _, _, .call method hbase harguments hdot => by
    rw [Expr.eval, Expr.eval, Expr.evalIn, Expr.evalIn]
    exact hbase.kept.bind fun receiver => receiver.call_kept hdot method harguments.kept
  | _, _, .index hbase hposition => by
    rw [Expr.eval, Expr.eval, Expr.evalIn, Expr.evalIn]
    exact hbase.kept.bind fun _ => hposition.kept.bind fun _ => .refl _
  | _, _, .binary op hleft hright => by
    rw [Expr.eval, Expr.eval, Expr.evalIn, Expr.evalIn]
    refine hleft.kept.bind fun a => ?_
    -- the right side may be left out, and it is left out on both sides or on none
    split
    · refine (Outcome.Kept.refl _).bind fun b => ?_
      split
      · exact .refl _
      · exact hright.kept.bind fun _ => .refl _
    · exact hright.kept.bind fun _ => .refl _
  | _, _, .unary _ h => by
    rw [Expr.eval, Expr.eval, Expr.evalIn, Expr.evalIn]
    exact h.kept.bind fun _ => .refl _
  | _, _, .conditional hcondition htrue hfalse => by
    rw [Expr.eval, Expr.eval, Expr.evalIn, Expr.evalIn]
    refine hcondition.kept.bind fun _ => (Outcome.Kept.refl _).bind fun b => ?_
    cases b with
    | true => exact htrue.kept
    | false => exact hfalse.kept
  | _, _, .elvis hvalue hfallback => by
    rw [Expr.eval, Expr.eval, Expr.evalIn, Expr.evalIn]
    refine hvalue.kept.bind fun v => ?_
    split
    · exact hfallback.kept
    · exact .refl _
  | _, _, .list hitems => by
    rw [Expr.eval, Expr.eval, Expr.evalIn, Expr.evalIn]
    exact hitems.kept.bind fun _ => .refl _

theorem AllSafer.kept : ∀ {es es' : List Expr}, AllSafer es es' →
    (evalAll c es).Kept (evalAll c es')
  | _, _, .nil => .refl _
  | _, _, .cons h hs => by
    rw [evalAll, evalAll, evalAllIn, evalAllIn]
    exact h.kept.bind fun _ => hs.kept.bind fun _ => .refl _

end

end

/-! ### The errors that are left -/

/-- The error of an outcome, if it is one, has a property. -/
def Outcome.Raises {α : Type} (x : Outcome α) (P : EvalError → Prop) : Prop :=
  ∀ e, x = .error e → P e

/-- If the error is a use of null, null was indexed. -/
def EvalError.NullOnlyIndexed (e : EvalError) : Prop :=
  ∀ use, e = .nullReference use → use = .index

namespace Outcome

variable {α β : Type} {P : EvalError → Prop}

theorem raises_ok (a : α) : Raises (.ok a) P := fun _ => nofun

theorem raises_error {e : EvalError} (h : P e) : Raises (.error e : Outcome α) P := by
  rintro _ ⟨⟩
  exact h

theorem Raises.bind {x : Outcome α} {f : α → Outcome β} (hx : x.Raises P)
    (hf : ∀ a, (f a).Raises P) : Raises (x >>= f) P := by
  cases x with
  | error e => exact raises_error (hx e rfl)
  | ok a => exact hf a

theorem Raises.map {x : Outcome α} {f : α → β} (hx : x.Raises P) : Raises (f <$> x) P := by
  rw [map_eq_pure_bind]
  exact hx.bind fun a => raises_ok (f a)

end Outcome

open Outcome EvalError

/-- Any other error than a use of null. -/
theorem raises_other {α : Type} {e : EvalError} (h : ∀ use, e ≠ .nullReference use) :
    Raises (.error e : Outcome α) NullOnlyIndexed :=
  raises_error fun use he => absurd he (h use)

namespace Value

theorem condition_raises (v : Value) : v.condition.Raises NullOnlyIndexed := by
  cases v with
  | null | boolean b => exact raises_ok _
  | _ => exact raises_other (by simp)

theorem requireBoolean_raises (op : BinaryOperator) (v : Value) :
    (requireBoolean op v).Raises NullOnlyIndexed := by
  cases v with
  | boolean b => exact raises_ok _
  | _ => exact raises_other (by simp)

theorem stringArgument_raises (method : String) (v : Value) :
    (stringArgument method v).Raises NullOnlyIndexed := by
  cases v with
  | string s => exact raises_ok _
  | _ => exact raises_other (by simp)

theorem arithmetic_raises (op : BinaryOperator) (a b : Value) :
    (arithmetic op a b).Raises NullOnlyIndexed := by
  -- both kinds of numbers know two errors, neither of which has to do with null
  have hinteger : ∀ m n, (integerArithmetic op m n).Raises NullOnlyIndexed := by
    intro m n
    unfold integerArithmetic
    dsimp only
    split
    · exact raises_other (by simp)
    · split
      · exact raises_ok _
      · exact raises_other (by simp)
  have hdecimal : ∀ d e, (decimalArithmetic op d e).Raises NullOnlyIndexed := by
    intro d e
    unfold decimalArithmetic
    dsimp only
    split
    · exact raises_other (by simp)
    · split
      · exact raises_ok _
      · exact raises_other (by simp)
  unfold arithmetic
  split
  · exact (hinteger _ _).map
  · split
    · exact (hdecimal _ _).map
    · exact raises_other (by simp)
    · exact raises_other (by simp)

theorem add_raises (a b : Value) : (add a b).Raises NullOnlyIndexed := by
  unfold add
  split
  case h_4 => exact arithmetic_raises .add _ _
  all_goals exact raises_ok _

theorem compareFor_raises (op : BinaryOperator) (a b : Value) :
    (compareFor op a b).Raises NullOnlyIndexed := by
  unfold compareFor
  split
  · exact raises_ok _
  · exact raises_other (by simp)

theorem matchOperands_raises (a b : Value) : (matchOperands a b).Raises NullOnlyIndexed := by
  unfold matchOperands
  split
  · exact raises_ok _
  · exact raises_other (by simp)
  · exact raises_other (by simp)

theorem matched_raises (pattern : String) (found : Option Bool) :
    (matched pattern found).Raises NullOnlyIndexed := by
  cases found with
  | some yes => exact raises_ok _
  | none => exact raises_other (by simp)

theorem fullMatch_raises (a b : Value) : (fullMatch a b).Raises NullOnlyIndexed :=
  (matchOperands_raises a b).bind fun _ => matched_raises _ _

theorem binary_raises (op : BinaryOperator) (a b : Value) :
    (binary op a b).Raises NullOnlyIndexed := by
  cases op with
  | add => exact add_raises a b
  | subtract | multiply | divide | modulo => exact arithmetic_raises _ a b
  | equal | notEqual => exact raises_ok _
  | lessThan | lessThanOrEqual | greaterThan | greaterThanOrEqual =>
    exact (compareFor_raises _ a b).map
  | fullMatch => exact fullMatch_raises a b
  | and | or =>
    exact (requireBoolean_raises _ a).bind fun _ =>
      (requireBoolean_raises _ b).bind fun _ => raises_ok _

theorem unary_raises (op : UnaryOperator) (v : Value) : (unary op v).Raises NullOnlyIndexed := by
  unfold unary
  split
  · unfold negate
    split
    · split
      · exact raises_ok _
      · exact raises_other (by simp)
    · exact raises_ok _
    · exact raises_other (by simp)
  · exact raises_ok _
  · exact raises_other (by simp)

/-- Behind a null-safe dot the base is not null. -/
theorem property_raises {v : Value} (hv : v.isNull = false) (name : String) :
    (v.property name).Raises NullOnlyIndexed := by
  unfold property
  split
  · split
    · exact raises_ok _
    · exact raises_other (by simp)
  · cases hv
  · exact raises_other (by simp)

theorem itemAt_raises {α : Type} (items : List α) (n : Int64) :
    (itemAt items n).Raises NullOnlyIndexed := by
  unfold itemAt
  split
  · exact raises_ok _
  · exact raises_other (by simp)

theorem index_raises (base position : Value) : (index base position).Raises NullOnlyIndexed := by
  unfold index
  split
  · exact raises_error fun use he => by cases he; rfl
  · exact itemAt_raises _ _
  · exact (itemAt_raises _ _).map
  · exact raises_ok _
  all_goals exact raises_other (by simp)

theorem apply_raises (receiver : Value) (name : String) (argument : Value) (m : Method) :
    (receiver.apply name argument m).Raises NullOnlyIndexed := by
  have hargument := stringArgument_raises name argument
  unfold apply
  cases m with
  | size =>
    -- the bounds of the integers play no part, and are too large to be computed with
    obtain ⟨ofInt?, hofInt⟩ : ∃ f, Integer.ofInt? = f := ⟨_, rfl⟩
    rw [hofInt]
    dsimp only
    split
    · split
      · exact raises_ok _
      · exact raises_other (by simp)
    · exact raises_other (by simp)
  | contains =>
    dsimp only
    split
    · exact hargument.bind fun _ => raises_ok _
    · exact raises_ok _
    · exact hargument.bind fun _ => raises_ok _
    · exact raises_other (by simp)
  | isEmpty | toUpperCase | toLowerCase | trim =>
    dsimp only
    split
    · exact raises_ok _
    · exact raises_other (by simp)
  | startsWith | endsWith =>
    dsimp only
    split
    · exact hargument.bind fun _ => raises_ok _
    · exact raises_other (by simp)

theorem invoke_raises (receiver : Value) (name : String) (arguments : List Value) :
    (receiver.invoke name arguments).Raises NullOnlyIndexed := by
  unfold invoke
  split
  · exact raises_other (by simp)
  · split
    · exact apply_raises receiver name _ _
    · exact raises_other (by simp)

end Value

theorem Reference.read_raises (c : Context) (r : Reference) :
    (r.read c).Raises NullOnlyIndexed := by
  unfold read
  split
  · exact raises_ok _
  · cases r <;> exact raises_other (by simp [unresolved])

section

variable {c : Context}

mutual

/-- Where all dots are null-safe no member of null is asked for. -/
theorem Expr.nullSafe_raises : ∀ e : Expr, (e.nullSafe.eval c).Raises NullOnlyIndexed
  | .literal _ => raises_ok _
  | .identifier name => (Reference.identifier name).read_raises c
  | .binding name => (Reference.binding name).read_raises c
  | .component name => (Reference.component name).read_raises c
  | .property base name _ => by
    rw [Expr.nullSafe, Expr.eval, Expr.evalIn]
    refine base.nullSafe_raises.bind fun v => ?_
    -- a null-safe dot lets no null through to the property
    cases hv : v.isNull with
    | true => exact raises_ok _
    | false => exact Value.property_raises hv name
  | .call base method arguments _ => by
    rw [Expr.nullSafe, Expr.eval, Expr.evalIn]
    refine base.nullSafe_raises.bind fun receiver => ?_
    split
    · exact raises_ok _
    · exact (allNullSafe_raises arguments).bind fun _ => receiver.invoke_raises method _
  | .index base position => by
    rw [Expr.nullSafe, Expr.eval, Expr.evalIn]
    exact base.nullSafe_raises.bind fun v =>
      position.nullSafe_raises.bind fun _ => v.index_raises _
  | .binary op left right => by
    rw [Expr.nullSafe, Expr.eval, Expr.evalIn]
    refine left.nullSafe_raises.bind fun a => ?_
    split
    · refine (a.requireBoolean_raises op).bind fun b => ?_
      split
      · exact raises_ok _
      · exact right.nullSafe_raises.bind fun v =>
          (v.requireBoolean_raises op).bind fun _ => raises_ok _
    · refine right.nullSafe_raises.bind fun b => ?_
      rw [Value.binaryIn_outcome]
      exact Value.binary_raises op a b
  | .unary op operand => by
    rw [Expr.nullSafe, Expr.eval, Expr.evalIn]
    exact operand.nullSafe_raises.bind fun v => v.unary_raises op
  | .conditional condition whenTrue whenFalse => by
    rw [Expr.nullSafe, Expr.eval, Expr.evalIn]
    refine condition.nullSafe_raises.bind fun v => v.condition_raises.bind fun b => ?_
    cases b with
    | true => exact whenTrue.nullSafe_raises
    | false => exact whenFalse.nullSafe_raises
  | .elvis value fallback => by
    rw [Expr.nullSafe, Expr.eval, Expr.evalIn]
    refine value.nullSafe_raises.bind fun v => ?_
    split
    · exact fallback.nullSafe_raises
    · exact raises_ok _
  | .list items => by
    rw [Expr.nullSafe, Expr.eval, Expr.evalIn]
    exact (allNullSafe_raises items).bind fun _ => raises_ok _

theorem allNullSafe_raises : ∀ es : List Expr,
    (evalAll c (allNullSafe es)).Raises NullOnlyIndexed
  | [] => raises_ok _
  | e :: es => by
    rw [allNullSafe, evalAll, evalAllIn]
    exact e.nullSafe_raises.bind fun _ => (allNullSafe_raises es).bind fun _ => raises_ok _

end

end

/-! ### Conservative extension -/

/-- **Null-safe navigation is a conservative extension.**  With some dots made null-safe an expression
keeps every value it has, and with all of them made so, which is one way to do it, no error is a use
of null but for brackets behind it. -/
theorem eval_safer (c : Context) (e : Expr) :
    (∀ e', Safer e e' → ∀ v, e.eval c = .ok v → e'.eval c = .ok v) ∧
      Safer e e.nullSafe ∧
      ∀ use, e.nullSafe.eval c = .error (.nullReference use) → use = .index :=
  ⟨fun _ h v hv => h.kept v hv, e.safer_nullSafe,
    fun use herror => e.nullSafe_raises _ herror use rfl⟩

/-- A list keeps its value when two of its four dots are made null-safe.  Brackets behind null fail even
where both dots before them are so. -/
theorem eval_safer_of_missing :
    let c : Context := .ofPairs [("m", .map [("a", .null), ("k", .string "xy")])]
    let a (nullSafe : Bool) : Expr := .property (.binding "m") "a" nullSafe
    let size (nullSafe : Bool) : Expr := .call (.property (.binding "m") "k" false) "size" [] nullSafe
    let e : Expr := .list [.property (a false) "b" true, size false]
    let e' : Expr := .list [.property (a true) "b" true, size true]
    let first : Expr := .index (.property (a false) "b" false) (.literal (.integer 0))
    Safer e e' ∧ e.eval c = .ok (.list [.null, .integer 2]) ∧
      e'.eval c = .ok (.list [.null, .integer 2]) ∧
      first.nullSafe.eval c = .error (.nullReference .index) ∧
      ∀ use, first.nullSafe.eval c = .error (.nullReference use) → use = .index := by
  intro c a size e e' first
  have hsafer : Safer e e' :=
    .list (.cons (.property "b" (.property "a" (.binding "m") nofun) fun _ => rfl)
      (.cons (.call "size" (.property "k" (.binding "m") nofun) .nil fun _ => rfl) .nil))
  have he : e.eval c = .ok (.list [.null, .integer 2]) := by rfl
  exact ⟨hsafer, he, (eval_safer c e).1 e' hsafer _ he, by rfl, (eval_safer c first).2.2⟩

end ExprLang
