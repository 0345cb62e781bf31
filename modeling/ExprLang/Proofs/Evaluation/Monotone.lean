import ExprLang.Proofs.Session.Answer

/-!
# Evaluation in a larger context

A context can grow without taking anything back that it has answered before: then every value an
expression had, it still has.  Nothing in the language turns the failure of a part into a value, not
even a fallback, a null-safe access or a connective: they look at values that are null or true or
false, never at failures.  So the two evaluations can only part where the one in the smaller context
has failed already.

An error, on the other hand, may become a value, or another error.

## Main definitions

* `Context.ExtendedBy` — a context answers all that another one answers.
* `Outcome.Kept` — an outcome that stays as it is if it is a value.

## Main results

* `Expr.eval_kept` — values are kept in larger contexts.
* `answer_of_extendedBy` — an answer with a value is the answer in larger contexts.
* `Context.extendedBy_install` — an installation makes contexts larger.
* `eval_monotone` — **success is monotone in the context.**

## References

`SPEC_FULL.md`, 4.2 and 10.1, on bindings and the registry behind them.
-/

namespace ExprLang

/-- Whatever the first context answers, the second one answers alike.  The last condition does not
follow from the others: a new binding can hide a component of its name. -/
structure Context.ExtendedBy (c₁ c₂ : Context) : Prop where
  binding : ∀ {name : String} {v : Value}, c₁.binding? name = some v → c₂.binding? name = some v
  component : ∀ {name : String} {v : Value},
    c₁.component? name = some v → c₂.component? name = some v
  lookup : ∀ {name : String} {v : Value}, c₁.lookup? name = some v → c₂.lookup? name = some v

/-- If the first outcome is a value, the second one is the same value. -/
def Outcome.Kept {α : Type} (x y : Outcome α) : Prop := ∀ a, x = .ok a → y = .ok a

variable {c c₁ c₂ : Context}

/-! ### Outcomes -/

namespace Outcome

variable {α β : Type} {x y : Outcome α} {f g : α → Outcome β}

theorem Kept.refl (x : Outcome α) : x.Kept x := fun _ h => h

/-- A sequence of two steps keeps its value if both steps do. -/
theorem Kept.bind (hfirst : x.Kept y) (hnext : ∀ a, (f a).Kept (g a)) :
    Kept (x >>= f) (y >>= g) := by
  intro b hb
  cases hx : x with
  | error e =>
    rw [hx] at hb
    cases hb
  | ok a =>
    rw [hx] at hb
    rw [hfirst a hx]
    exact hnext a b hb

end Outcome

/-! ### Expressions -/

namespace Context.ExtendedBy

theorem resolve (h : c₁.ExtendedBy c₂) {r : Reference} {v : Value} (hr : r.resolve? c₁ = some v) :
    r.resolve? c₂ = some v := by
  cases r with
  | identifier name => exact h.lookup hr
  | binding name => exact h.binding hr
  | component name => exact h.component hr

theorem read (h : c₁.ExtendedBy c₂) (r : Reference) : (r.read c₁).Kept (r.read c₂) := by
  intro v hv
  unfold Reference.read at hv ⊢
  cases hr : r.resolve? c₁ with
  | none =>
    rw [hr] at hv
    cases hv
  | some w =>
    rw [hr] at hv
    rw [h.resolve hr]
    exact hv

end Context.ExtendedBy

mutual

/-- The value of an expression is kept in a larger context. -/
theorem Expr.eval_kept (h : c₁.ExtendedBy c₂) : ∀ e : Expr, (e.eval c₁).Kept (e.eval c₂)
  | .literal _ => .refl _
  | .identifier name => h.read (.identifier name)
  | .binding name => h.read (.binding name)
  | .component name => h.read (.component name)
  | .property base _ _ => by
    rw [Expr.eval, Expr.eval, Expr.evalIn, Expr.evalIn]
    exact (base.eval_kept h).bind fun _ => .refl _
  | .call base _ arguments _ => by
    rw [Expr.eval, Expr.eval, Expr.evalIn, Expr.evalIn]
    refine (base.eval_kept h).bind fun receiver => ?_
    -- on null both evaluations end before the arguments
    split
    · exact .refl _
    · exact (evalAll_kept h arguments).bind fun _ => .refl _
  | .index base position => by
    rw [Expr.eval, Expr.eval, Expr.evalIn, Expr.evalIn]
    exact (base.eval_kept h).bind fun _ => (position.eval_kept h).bind fun _ => .refl _
  | .binary op left right => by
    rw [Expr.eval, Expr.eval, Expr.evalIn, Expr.evalIn]
    refine (left.eval_kept h).bind fun a => ?_
    split
    · refine (Outcome.Kept.refl _).bind fun b => ?_
      split
      · exact .refl _
      · exact (right.eval_kept h).bind fun _ => .refl _
    · exact (right.eval_kept h).bind fun _ => .refl _
  | .unary _ operand => by
    rw [Expr.eval, Expr.eval, Expr.evalIn, Expr.evalIn]
    exact (operand.eval_kept h).bind fun _ => .refl _
  | .conditional condition whenTrue whenFalse => by
    rw [Expr.eval, Expr.eval, Expr.evalIn, Expr.evalIn]
    refine (condition.eval_kept h).bind fun _ => (Outcome.Kept.refl _).bind fun b => ?_
    cases b with
    | true => exact whenTrue.eval_kept h
    | false => exact whenFalse.eval_kept h
  | .elvis value fallback => by
    rw [Expr.eval, Expr.eval, Expr.evalIn, Expr.evalIn]
    refine (value.eval_kept h).bind fun v => ?_
    split
    · exact fallback.eval_kept h
    · exact .refl _
  | .list items => by
    rw [Expr.eval, Expr.eval, Expr.evalIn, Expr.evalIn]
    exact (evalAll_kept h items).bind fun _ => .refl _

theorem evalAll_kept (h : c₁.ExtendedBy c₂) :
    ∀ es : List Expr, (evalAll c₁ es).Kept (evalAll c₂ es)
  | [] => .refl _
  | e :: es => by
    rw [evalAll, evalAll, evalAllIn, evalAllIn]
    exact (e.eval_kept h).bind fun _ => (evalAll_kept h es).bind fun _ => .refl _

end

/-! ### Answers -/

section

variable {α : Type} [Coercible α] {text : String} {a : α}

theorem Compiled.evaluate?_of_extendedBy (h : c₁.ExtendedBy c₂) {compiled : Compiled}
    (ha : compiled.evaluate? c₁ = some a) : compiled.evaluate? c₂ = some a := by
  unfold evaluate? at ha ⊢
  cases hv : compiled.tree.eval c₁ with
  | error e =>
    rw [hv] at ha
    cases ha
  | ok v =>
    rw [hv] at ha
    rw [compiled.tree.eval_kept h v hv]
    exact ha

theorem answer_of_extendedBy (h : c₁.ExtendedBy c₂) (ha : answer text c₁ = .ok (some a)) :
    answer text c₂ = .ok (some a) := by
  cases hread : Compiled.ofText text with
  | error e =>
    rw [answer_of_error hread] at ha
    cases ha
  | ok compiled =>
    rw [answer_of_ok hread, Except.ok.injEq] at ha ⊢
    exact Compiled.evaluate?_of_extendedBy h ha

end

/-! ### Growing contexts -/

namespace Context

theorem ExtendedBy.refl (c : Context) : c.ExtendedBy c := ⟨id, id, id⟩

theorem ExtendedBy.trans {c₃ : Context} (h : c₁.ExtendedBy c₂) (h' : c₂.ExtendedBy c₃) :
    c₁.ExtendedBy c₃ :=
  ⟨fun hv => h'.binding (h.binding hv), fun hv => h'.component (h.component hv),
    fun hv => h'.lookup (h.lookup hv)⟩

/-- A binding under a name that had no value at all takes nothing back. -/
theorem extendedBy_withBinding {name : String} (h : c.lookup? name = none) (v : Value) :
    c.ExtendedBy (c.withBinding name v) := by
  have hbinding : ∀ other, name ≠ other →
      (c.withBinding name v).binding? other = c.binding? other := fun other hother => by
    rw [binding?_withBinding, if_neg hother]
  refine ⟨fun {other w} hw => ?_, id, fun {other w} hw => ?_⟩
  · have hother : name ≠ other := by
      rintro rfl
      rw [lookup?_of_binding? hw] at h
      cases h
    rw [hbinding other hother, hw]
  · have hother : name ≠ other := by
      rintro rfl
      rw [hw] at h
      cases h
    rw [lookup?, hbinding other hother]
    exact hw

/-- A registry that is attached where there is none hides no binding, and there is no component that it
could take the place of. -/
theorem extendedBy_orRegistry (c : Context) (r : Option Registry) :
    c.ExtendedBy (c.orRegistry r) := by
  cases hown : c.registry with
  | some own =>
    rw [orRegistry_some c own r hown]
    exact .refl c
  | none =>
    have hcomponent : ∀ name, c.component? name = none := fun name => by
      rw [component?, hown]
      rfl
    refine ⟨id, fun {name v} h => ?_, fun {name v} h => ?_⟩
    · rw [hcomponent] at h
      cases h
    · rw [lookup?, hcomponent, Option.or_none] at h
      exact lookup?_of_binding? h

/-- What a context sees of the place for a registry can only grow by an installation. -/
theorem extendedBy_install (c : Context) (cell : RegistryCell) (r : Registry) :
    (c.orRegistry cell.content).ExtendedBy (c.orRegistry (cell.install r).2.content) := by
  cases hcontent : cell.content with
  | none =>
    rw [orRegistry_none]
    exact c.extendedBy_orRegistry _
  | some first =>
    rw [RegistryCell.install_of_content hcontent, hcontent]
    exact .refl _

end Context

/-- **Success is monotone in the context.**  A value that an expression has in a context it also has in
every context that answers all that this one answers.  In particular a request that was answered with
a value is answered with the same value after a registry was installed, whatever else the cache is
used for. -/
theorem eval_monotone :
    (∀ (compiled : Compiled) (c₁ c₂ : Context), c₁.ExtendedBy c₂ → ∀ v,
      compiled.tree.eval c₁ = .ok v → compiled.tree.eval c₂ = .ok v) ∧
    ∀ (cell : RegistryCell) (r : Registry) (config : CacheConfig) (uses later : List Cache.Action)
      (α : Type) [Coercible α] (text : String) (context : Context) (a : α),
      ((Session.afterUses cell config uses).evaluate text context).1 = .ok (some a) →
      (((Session.afterUses cell config later).register r).2.evaluate text context).1 =
        .ok (some a) := by
  refine ⟨fun compiled _ _ h v hv => compiled.tree.eval_kept h v hv,
    fun cell r config uses later α _ text context a ha => ?_⟩
  have hlater : ((Session.afterUses cell config later).register r).2.cache.Faithful :=
    Session.faithful_afterUses cell config later
  rw [Session.run_evaluate (Session.faithful_afterUses cell config uses)] at ha
  rw [Session.run_evaluate hlater]
  exact answer_of_extendedBy (context.extendedBy_install cell r) ha

/-- A fallback keeps its value when a binding and a registry come in, under whose names failed before
what was not needed. -/
theorem eval_monotone_of_fallback :
    let fallback : Compiled := ⟨"#a ?: b + @c", .elvis (.binding "a")
      (.binary .add (.identifier "b") (.component "c"))⟩
    let c : Context := .ofPairs [("a", .integer 1)]
    let registry : Registry := ⟨fun _ => some (.integer 3)⟩
    Compiled.ofText fallback.source = .ok fallback ∧
      fallback.tree.eval ((c.withBinding "b" .null).withRegistry registry) = .ok (.integer 1) ∧
      (((Session.afterUses .empty .small [.compile "a" (some "first"), .clear]).register
        registry).2.evaluate fallback.source c).1 = .ok (some (1 : Int64)) := by
  intro fallback c registry
  obtain ⟨hcontexts, hsessions⟩ := eval_monotone
  have hextended : c.ExtendedBy ((c.withBinding "b" .null).withRegistry registry) :=
    (Context.extendedBy_withBinding rfl .null).trans (Context.extendedBy_orRegistry _ (some registry))
  exact ⟨by decide +kernel, hcontexts fallback c _ hextended _ rfl,
    hsessions .empty registry .small [] _ Int64 _ c 1 (by decide +kernel)⟩

end ExprLang
