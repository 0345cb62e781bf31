import ExprLang.Evaluation
import ExprLang.Proofs.Value.Order

/-!
# The values of expressions are well-formed

No map with two entries of one name comes about in an evaluation: the language takes maps apart but
never puts one together, so that every map in a value is a map in a value that the context answers.
With such contexts the laws of equality are laws of the operator `==`.

## Main definitions

* `Outcome.Yields` — what holds of the value of an outcome, if there is one.
* `Context.WellFormed` — a context answers only well-formed values.

## Main results

* `Value.binary_wellFormed` and its like — what the operations yield.
* `Context.wellFormed_of_parts` — contexts of well-formed bindings and components.
* `Expr.eval_wellFormed` — **the values of expressions are well-formed.**
* `Expr.eval_equal_comm`, `Expr.eval_equal_self` — `==` does not depend on the sides, and is true of
  an expression and itself.
-/

namespace ExprLang

/-- The value of an outcome, if it has one, has a property. -/
def Outcome.Yields {α : Type} (x : Outcome α) (P : α → Prop) : Prop := ∀ a, x = .ok a → P a

namespace Outcome

variable {α β : Type} {P : α → Prop} {Q : β → Prop}

theorem yields_ok {a : α} (h : P a) : Yields (.ok a) P := by
  rintro _ ⟨⟩
  exact h

theorem yields_error (e : EvalError) : Yields (.error e) P := fun _ => nofun

theorem Yields.bind {x : Outcome α} {f : α → Outcome β} (hx : x.Yields P)
    (hf : ∀ a, P a → (f a).Yields Q) : Yields (x >>= f) Q := by
  cases x with
  | error e => exact yields_error e
  | ok a => exact hf a (hx a rfl)

/-- Where the value of the second step does not depend on what the first one yields. -/
theorem yields_bind {x : Outcome α} {f : α → Outcome β} (h : ∀ a, (f a).Yields Q) :
    Yields (x >>= f) Q :=
  Yields.bind (P := fun _ => True) (fun _ _ => trivial) fun a _ => h a

theorem yields_map {x : Outcome α} {f : α → β} (h : ∀ a, Q (f a)) : Yields (f <$> x) Q := by
  rw [map_eq_pure_bind]
  exact yields_bind fun a => yields_ok (h a)

end Outcome

open Outcome

/-! ### Operations -/

namespace Value

variable {a b : Value}

theorem arithmetic_wellFormed (op : BinaryOperator) (a b : Value) :
    (arithmetic op a b).Yields WellFormed := by
  unfold arithmetic
  split
  · exact yields_map fun _ => trivial
  · split
    · exact yields_map fun _ => trivial
    · exact yields_error _
    · exact yields_error _

theorem add_wellFormed (ha : a.WellFormed) (hb : b.WellFormed) : (add a b).Yields WellFormed := by
  unfold add
  split
  · exact yields_ok trivial
  · exact yields_ok trivial
  · rw [wellFormed_list_iff] at ha hb
    exact yields_ok (wellFormed_list_iff.mpr (List.forall_mem_append.mpr ⟨ha, hb⟩))
  · exact arithmetic_wellFormed .add _ _

theorem matched_wellFormed (pattern : String) (found : Option Bool) :
    (matched pattern found).Yields WellFormed := by
  cases found with
  | some yes => exact yields_ok trivial
  | none => exact yields_error _

theorem fullMatch_wellFormed (a b : Value) : (fullMatch a b).Yields WellFormed :=
  yields_bind fun _ => matched_wellFormed _ _

theorem binary_wellFormed (op : BinaryOperator) (ha : a.WellFormed) (hb : b.WellFormed) :
    (binary op a b).Yields WellFormed := by
  cases op with
  | add => exact add_wellFormed ha hb
  | subtract | multiply | divide | modulo => exact arithmetic_wellFormed _ a b
  | equal | notEqual => exact yields_ok trivial
  | lessThan | lessThanOrEqual | greaterThan | greaterThanOrEqual => exact yields_map fun _ => trivial
  | fullMatch => exact fullMatch_wellFormed a b
  | and | or =>
    exact yields_bind fun _ => yields_bind fun _ => yields_ok trivial

theorem unary_wellFormed (a : Value) (op : UnaryOperator) : (unary op a).Yields WellFormed := by
  unfold unary
  split
  · unfold negate
    split
    · split
      · exact yields_ok trivial
      · exact yields_error _
    · exact yields_ok trivial
    · exact yields_error _
  · exact yields_ok trivial
  · exact yields_error _

theorem wellFormed_of_get? {entries : Entries Value} {name : String} {v : Value}
    (h : (map entries).WellFormed) (hv : Entries.get? entries name = some v) : v.WellFormed :=
  (wellFormed_map_iff.mp h).2 _ (Entries.mem_of_get? hv)

theorem property_wellFormed (name : String) (ha : a.WellFormed) :
    (property name a).Yields WellFormed := by
  unfold property
  split
  · split
    · next hv => exact yields_ok (wellFormed_of_get? ha hv)
    · exact yields_error _
  · exact yields_error _
  · exact yields_error _

theorem itemAt_mem {α : Type} (items : List α) (n : Int64) :
    (itemAt items n).Yields fun v => v ∈ items := by
  unfold itemAt
  split
  · next hv =>
    split at hv
    · cases hv
    · exact yields_ok (List.mem_of_getElem? hv)
  · exact yields_error _

theorem index_wellFormed (ha : a.WellFormed) : (index a b).Yields WellFormed := by
  unfold index
  split
  · exact yields_error _
  · next items n =>
    intro v hv
    exact wellFormed_list_iff.mp ha v (itemAt_mem items n v hv)
  · exact yields_map fun _ => trivial
  · next entries name =>
    cases hv : Entries.get? entries name with
    | none => exact yields_ok trivial
    | some v => exact yields_ok (wellFormed_of_get? ha hv)
  all_goals exact yields_error _

/-- No method answers a list or a map. -/
theorem apply_wellFormed (receiver : Value) (name : String) (argument : Value) (m : Method) :
    (receiver.apply name argument m).Yields WellFormed := by
  unfold apply
  cases m with
  | size =>
    -- the bounds of the integers play no part, and are too large to be computed with
    obtain ⟨ofInt?, hofInt⟩ : ∃ f, Integer.ofInt? = f := ⟨_, rfl⟩
    rw [hofInt]
    dsimp only
    split
    · split
      · exact yields_ok trivial
      · exact yields_error _
    · exact yields_error _
  | contains =>
    dsimp only
    split
    · exact yields_bind fun _ => yields_ok trivial
    · exact yields_ok trivial
    · exact yields_bind fun _ => yields_ok trivial
    · exact yields_error _
  | isEmpty | toUpperCase | toLowerCase | trim =>
    dsimp only
    split
    · exact yields_ok trivial
    · exact yields_error _
  | startsWith | endsWith =>
    dsimp only
    split
    · exact yields_bind fun _ => yields_ok trivial
    · exact yields_error _

theorem invoke_wellFormed (receiver : Value) (name : String) (arguments : List Value) :
    (receiver.invoke name arguments).Yields WellFormed := by
  unfold invoke
  split
  · exact yields_error _
  · split
    · exact apply_wellFormed receiver name _ _
    · exact yields_error _

end Value

/-! ### Expressions -/

/-- All that a context answers is well-formed. -/
def Context.WellFormed (c : Context) : Prop :=
  ∀ (r : Reference) (v : Value), r.resolve? c = some v → v.WellFormed

variable {c : Context}

theorem Literal.value_wellFormed (l : Literal) : l.value.WellFormed := by
  cases l <;> trivial

namespace Context

/-- It is enough that the bindings and the components are well-formed. -/
theorem wellFormed_of_parts (hbindings : ∀ p ∈ c.bindings, p.2.WellFormed)
    (hcomponents : ∀ name v, c.component? name = some v → v.WellFormed) : c.WellFormed := by
  have hbinding : ∀ name v, c.binding? name = some v → v.WellFormed := fun name v hv =>
    hbindings _ (Entries.mem_of_get? hv)
  rintro (name | name | name) v hv
  · rcases Option.or_eq_some_iff.mp hv with hv | ⟨-, hv⟩
    · exact hbinding name v hv
    · exact hcomponents name v hv
  · exact hbinding name v hv
  · exact hcomponents name v hv

theorem WellFormed.read (h : c.WellFormed) (r : Reference) :
    (r.read c).Yields Value.WellFormed := by
  unfold Reference.read
  cases hr : r.resolve? c with
  | none => exact yields_error _
  | some v => exact yields_ok (h r v hr)

end Context

mutual

/-- **The values of expressions are well-formed.** -/
theorem Expr.eval_wellFormed (h : c.WellFormed) :
    ∀ e : Expr, (e.eval c).Yields Value.WellFormed
  | .literal l => yields_ok l.value_wellFormed
  | .identifier name => h.read (.identifier name)
  | .binding name => h.read (.binding name)
  | .component name => h.read (.component name)
  | .property base name _ => by
    rw [Expr.eval, Expr.evalIn]
    refine (base.eval_wellFormed h).bind fun v hv => ?_
    split
    · exact yields_ok trivial
    · exact Value.property_wellFormed name hv
  | .call _ method _ _ => by
    rw [Expr.eval, Expr.evalIn]
    refine yields_bind fun receiver => ?_
    split
    · split
      · exact yields_ok trivial
      · exact yields_error _
    · exact yields_bind fun _ => receiver.invoke_wellFormed method _
  | .index base _ => by
    rw [Expr.eval, Expr.evalIn]
    exact (base.eval_wellFormed h).bind fun v hv =>
      yields_bind fun _ => Value.index_wellFormed hv
  | .binary op left right => by
    rw [Expr.eval, Expr.evalIn]
    refine (left.eval_wellFormed h).bind fun a ha => ?_
    split
    -- a connective yields a Boolean, from one side or from both
    · refine yields_bind fun b => ?_
      split
      · exact yields_ok trivial
      · exact yields_bind fun _ => yields_bind fun _ => yields_ok trivial
    · refine (right.eval_wellFormed h).bind fun b hb => ?_
      rw [Value.binaryIn_outcome]
      exact Value.binary_wellFormed op ha hb
  | .unary op _ => by
    rw [Expr.eval, Expr.evalIn]
    exact yields_bind fun v => v.unary_wellFormed op
  | .conditional _ whenTrue whenFalse => by
    rw [Expr.eval, Expr.evalIn]
    refine yields_bind fun _ => yields_bind fun b => ?_
    cases b with
    | true => exact whenTrue.eval_wellFormed h
    | false => exact whenFalse.eval_wellFormed h
  | .elvis value fallback => by
    rw [Expr.eval, Expr.evalIn]
    refine (value.eval_wellFormed h).bind fun v hv => ?_
    split
    · exact fallback.eval_wellFormed h
    · exact yields_ok hv
  | .list items => by
    rw [Expr.eval, Expr.evalIn]
    exact (evalAll_wellFormed h items).bind fun _ hvs =>
      yields_ok (Value.wellFormed_list_iff.mpr hvs)

theorem evalAll_wellFormed (h : c.WellFormed) :
    ∀ es : List Expr, (evalAll c es).Yields fun vs => ∀ v ∈ vs, v.WellFormed
  | [] => yields_ok fun _ => nofun
  | e :: es => by
    rw [evalAll, evalAllIn]
    exact (e.eval_wellFormed h).bind fun _ hv =>
      (evalAll_wellFormed h es).bind fun _ hvs => yields_ok (List.forall_mem_cons.mpr ⟨hv, hvs⟩)

end

/-! ### The operator of equality -/

/-- Where both sides have values, `==` compares them. -/
theorem Expr.eval_equal {l r : Expr} {a b : Value} (hl : l.eval c = .ok a) (hr : r.eval c = .ok b) :
    (Expr.binary .equal l r).eval c = .ok (.boolean (a.equals b)) := by
  rw [Expr.eval] at hl hr ⊢
  rw [Expr.evalIn, hl, hr]
  rfl

theorem Expr.eval_equal_self (h : c.WellFormed) {e : Expr} {a : Value} (he : e.eval c = .ok a) :
    (Expr.binary .equal e e).eval c = .ok (.boolean true) := by
  have ha : a.WellFormed := e.eval_wellFormed h a he
  rw [Expr.eval_equal he he, a.equals_refl ha]

theorem Expr.eval_equal_comm (h : c.WellFormed) {l r : Expr} {a b : Value}
    (hl : l.eval c = .ok a) (hr : r.eval c = .ok b) :
    (Expr.binary .equal l r).eval c = (Expr.binary .equal r l).eval c := by
  have ha : a.WellFormed := l.eval_wellFormed h a hl
  have hb : b.WellFormed := r.eval_wellFormed h b hr
  have hequals : a.equals b = b.equals a :=
    Bool.eq_iff_iff.mpr ⟨a.equals_symm b ha hb, b.equals_symm a hb ha⟩
  rw [Expr.eval_equal hl hr, Expr.eval_equal hr hl, hequals]

end ExprLang
