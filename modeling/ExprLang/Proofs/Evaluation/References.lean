import ExprLang.Compiled
import ExprLang.Evaluation

/-!
# What an evaluation reads

The outcome of an evaluation depends on its context through the references of the expression alone.
Evaluation stops early in many places and looks many names up never; the references hold the names of
all parts of the tree, whether they are reached or not, so that two contexts which agree on them lead
every part to the same outcome.

## Main definitions

* `Context.AgreeOn` — two contexts answer alike for some references.

## Main results

* `Expr.eval_congr` — an expression has the same outcome in contexts that agree on its names.
* `Compiled.eval_depends_on_references` — **nothing but the references is read**.

## References

`SPEC_FULL.md`, 10.1, on identifiers; the reference's `references`.
-/

namespace ExprLang

/-- Two contexts answer alike for each of the references, looked up the way it is written: a bare name
as a binding or else a component, `#name` as a binding, `@name` as a component. -/
def Context.AgreeOn (c₁ c₂ : Context) (names : List Reference) : Prop :=
  ∀ r ∈ names, r.resolve? c₁ = r.resolve? c₂

variable {c c₁ c₂ : Context}

/-! ### Agreement -/

namespace Context

theorem agreeOn_append {names names' : List Reference} :
    c₁.AgreeOn c₂ (names ++ names') ↔ c₁.AgreeOn c₂ names ∧ c₁.AgreeOn c₂ names' :=
  List.forall_mem_append

theorem agreeOn_eraseDups {names : List Reference} :
    c₁.AgreeOn c₂ names.eraseDups ↔ c₁.AgreeOn c₂ names := by
  simp only [AgreeOn, List.mem_eraseDups]

/-- A bare name is looked up alike where it is bound alike and, if it is not bound, is the name of
the same component. -/
theorem lookup?_congr {name : String} (hbinding : c₁.binding? name = c₂.binding? name)
    (hcomponent : c₂.binding? name = none → c₁.component? name = c₂.component? name) :
    c₁.lookup? name = c₂.lookup? name := by
  cases hvalue : c₂.binding? name with
  | some v => rw [lookup?_of_binding? hvalue, lookup?_of_binding? (hbinding.trans hvalue)]
  | none =>
    rw [lookup?_of_binding?_eq_none hvalue, lookup?_of_binding?_eq_none (hbinding.trans hvalue)]
    exact hcomponent hvalue

end Context

theorem Reference.read_congr {r : Reference} (h : r.resolve? c₁ = r.resolve? c₂) :
    r.read c₁ = r.read c₂ := by
  rw [read, read, h]

theorem Reference.read_eq_of_agreeOn {r : Reference} (h : c₁.AgreeOn c₂ [r]) :
    r.read c₁ = r.read c₂ :=
  read_congr (h r List.mem_cons_self)

/-! ### Outcomes -/

section

variable {m : Type → Type} [Monad m] [Evaluator m]

mutual

/-- Contexts that agree on the names of an expression lead to the same outcome. -/
theorem Expr.evalIn_congr : ∀ e : Expr, c₁.AgreeOn c₂ e.occurrences →
    (e.evalIn c₁ : m Value) = e.evalIn c₂
  | .literal _, _ => rfl
  | .identifier _, h | .binding _, h | .component _, h =>
    congrArg ofOutcome (Reference.read_eq_of_agreeOn h)
  | .property base _ _, h => by rw [Expr.evalIn, Expr.evalIn, base.evalIn_congr h]
  | .call base _ arguments _, h => by
    obtain ⟨hbase, harguments⟩ := Context.agreeOn_append.mp h
    rw [Expr.evalIn, Expr.evalIn, base.evalIn_congr hbase, evalAllIn_congr arguments harguments]
  | .index base position, h => by
    obtain ⟨hbase, hposition⟩ := Context.agreeOn_append.mp h
    rw [Expr.evalIn, Expr.evalIn, base.evalIn_congr hbase, position.evalIn_congr hposition]
  | .binary _ left right, h => by
    obtain ⟨hleft, hright⟩ := Context.agreeOn_append.mp h
    rw [Expr.evalIn, Expr.evalIn, left.evalIn_congr hleft, right.evalIn_congr hright]
  | .unary _ operand, h => by rw [Expr.evalIn, Expr.evalIn, operand.evalIn_congr h]
  | .conditional condition whenTrue whenFalse, h => by
    obtain ⟨hothers, hfalse⟩ := Context.agreeOn_append.mp h
    obtain ⟨hcondition, htrue⟩ := Context.agreeOn_append.mp hothers
    rw [Expr.evalIn, Expr.evalIn, condition.evalIn_congr hcondition, whenTrue.evalIn_congr htrue,
      whenFalse.evalIn_congr hfalse]
  | .elvis value fallback, h => by
    obtain ⟨hvalue, hfallback⟩ := Context.agreeOn_append.mp h
    rw [Expr.evalIn, Expr.evalIn, value.evalIn_congr hvalue, fallback.evalIn_congr hfallback]
  | .list items, h => by rw [Expr.evalIn, Expr.evalIn, evalAllIn_congr items h]

theorem evalAllIn_congr : ∀ es : List Expr, c₁.AgreeOn c₂ (occurrencesOfAll es) →
    (evalAllIn c₁ es : m (List Value)) = evalAllIn c₂ es
  | [], _ => rfl
  | e :: es, h => by
    obtain ⟨he, hes⟩ := Context.agreeOn_append.mp h
    rw [evalAllIn, evalAllIn, e.evalIn_congr he, evalAllIn_congr es hes]

end

end

/-! ### References -/

/-- **Nothing but the references is read.**  Contexts that agree on the references of an expression
lead to the same outcome, be it a value or an error.  So nothing is changed by other bindings as long
as those under the names referred to stay, and nothing by other components or by attaching a registry
as long as it has the same components under the names for which the expression turns to it: the
`@name`s, and the bare names that are not bound. -/
theorem Compiled.eval_depends_on_references (compiled : Compiled) :
    (∀ c₁ c₂ : Context, c₁.AgreeOn c₂ compiled.references →
      compiled.tree.eval c₁ = compiled.tree.eval c₂) ∧
    (∀ (c : Context) (bindings : Entries Value),
      (∀ name, .identifier name ∈ compiled.references ∨ .binding name ∈ compiled.references →
        bindings.get? name = c.binding? name) →
      compiled.tree.eval { c with bindings } = compiled.tree.eval c) ∧
    ∀ (c : Context) (registry : Option Registry),
      (∀ name, .component name ∈ compiled.references ∨
          .identifier name ∈ compiled.references ∧ c.binding? name = none →
        (registry.bind fun r => r.component? name) = c.component? name) →
      compiled.tree.eval { c with registry } = compiled.tree.eval c := by
  have hagree : ∀ c₁ c₂ : Context, c₁.AgreeOn c₂ compiled.references →
      compiled.tree.eval c₁ = compiled.tree.eval c₂ := fun c₁ c₂ h =>
    compiled.tree.evalIn_congr (Context.agreeOn_eraseDups.mp h)
  refine ⟨hagree, fun c bindings h => hagree _ _ fun r hr => ?_,
    fun c registry h => hagree _ _ fun r hr => ?_⟩
  · -- bindings are asked for bare names and for those marked as bindings
    cases r with
    | identifier name => exact Context.lookup?_congr (h name (.inl hr)) fun _ => rfl
    | binding name => exact h name (.inr hr)
    | component name => rfl
  · -- a registry is asked for components, and for bare names that are not bound
    cases r with
    | identifier name => exact Context.lookup?_congr rfl fun hnone => h name (.inr ⟨hr, hnone⟩)
    | binding name => rfl
    | component name => exact h name (.inl hr)

/-- A sum has the same outcome when a binding it does not refer to comes in and a registry is
attached. -/
theorem Compiled.eval_sum_of_other_names :
    let sum : Compiled := ⟨"#a + b", .binary .add (.binding "a") (.identifier "b")⟩
    let c : Context := .ofPairs [("a", .integer 1), ("b", .integer 2)]
    let registry : Registry := ⟨fun _ => some (.integer 3)⟩
    (Compiled.ofText sum.source).toOption = some sum ∧
      sum.tree.eval ((c.withBinding "d" .null).withRegistry registry) = sum.tree.eval c ∧
      sum.tree.eval { c with bindings := (c.withBinding "d" .null).bindings } = sum.tree.eval c ∧
      sum.tree.eval { c with registry := some registry } = sum.tree.eval c := by
  intro sum c registry
  have hreferences : sum.references = [.binding "a", .identifier "b"] := by decide
  obtain ⟨hcontexts, hbindings, hregistry⟩ := sum.eval_depends_on_references
  rw [hreferences] at hcontexts hbindings hregistry
  -- the three changes touch `d`, the bindings but `a`, and the registry behind the bound `a`
  refine ⟨by decide +kernel, hcontexts _ _ ?_, hbindings c _ ?_, hregistry c _ ?_⟩
  · intro r hr
    rcases List.mem_cons.mp hr with rfl | hr
    · rfl
    · rw [List.mem_singleton.mp hr]
      rfl
  · intro name hname
    obtain rfl | rfl : name = "b" ∨ name = "a" := by simpa using hname
    all_goals rfl
  · intro name hname
    obtain ⟨rfl, hnone⟩ : name = "b" ∧ c.binding? name = none := by simpa using hname
    cases hnone

end ExprLang
