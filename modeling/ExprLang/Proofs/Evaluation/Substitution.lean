import ExprLang.Proofs.Evaluation.References

/-!
# Substitution

Names can be replaced by expressions.  The language has nothing that binds a name inside of an
expression, so an expression in the place of a name is evaluated in the context of the whole, wherever
it stands, and nothing of it can be captured.  Whether a part is evaluated at all is decided by the
values of other parts.  So a replaced name makes no difference as long as it had the value, or the
error, of what has come in its place.

## Main definitions

* `Expr.subst σ e` — the expression `e` with `σ r` in the place of each name `r`.
* `Expr.replace e name s` — with `s` in the place of one name, written bare or with `#`.

## Main results

* `Expr.occurrences_subst` — the names of what has come about.
* `Expr.evalIn_subst` — the outcome is that of `e` where the names have the outcomes of what replaces them.
* `eval_replace_eq_eval_withBinding` — **substitution agrees with binding.**

## References

`SPEC_FULL.md`, 3 and 10.1, on bindings; the reference's `with_binding`.
-/

namespace ExprLang

/-! ### Replacing names -/

/-- The expression that a name is by itself. -/
def Reference.expr : Reference → Expr
  | identifier name => .identifier name
  | binding name => .binding name
  | component name => .component name

mutual

/-- The expression with another one in the place of each name. -/
def Expr.subst (σ : Reference → Expr) : Expr → Expr
  | .literal value => .literal value
  | .identifier name => σ (.identifier name)
  | .binding name => σ (.binding name)
  | .component name => σ (.component name)
  | .property base name nullSafe => .property (base.subst σ) name nullSafe
  | .call base method arguments nullSafe =>
    .call (base.subst σ) method (substAll σ arguments) nullSafe
  | .index base position => .index (base.subst σ) (position.subst σ)
  | .binary op left right => .binary op (left.subst σ) (right.subst σ)
  | .unary op operand => .unary op (operand.subst σ)
  | .conditional condition whenTrue whenFalse =>
    .conditional (condition.subst σ) (whenTrue.subst σ) (whenFalse.subst σ)
  | .elvis value fallback => .elvis (value.subst σ) (fallback.subst σ)
  | .list items => .list (substAll σ items)

/-- Several expressions with others in the places of their names. -/
def substAll (σ : Reference → Expr) : List Expr → List Expr
  | [] => []
  | e :: es => e.subst σ :: substAll σ es

end

/-- What comes in the place of each name if `name` is to be replaced by `s`.  A component is another
thing than a binding of its name, so `@name` stays. -/
def replacing (name : String) (s : Expr) (r : Reference) : Expr :=
  if r = .identifier name ∨ r = .binding name then s else r.expr

/-- The expression with `s` in the place of `name`, written bare or with `#`. -/
def Expr.replace (e : Expr) (name : String) (s : Expr) : Expr := e.subst (replacing name s)

/-! ### Names -/

@[simp] theorem Reference.occurrences_expr (r : Reference) : r.expr.occurrences = [r] := by
  cases r <;> rfl

section

variable (σ : Reference → Expr)

mutual

/-- In the place of each name stand the names of what has replaced it. -/
theorem Expr.occurrences_subst : ∀ e : Expr,
    (e.subst σ).occurrences = e.occurrences.flatMap fun r => (σ r).occurrences
  | .literal _ => rfl
  | .identifier _ | .binding _ | .component _ => by simp [Expr.subst, Expr.occurrences]
  | .property base _ _ => base.occurrences_subst
  | .unary _ operand => operand.occurrences_subst
  | .list items => occurrencesOfAll_subst items
  | .call base _ arguments _ => by
    simp only [Expr.subst, Expr.occurrences, List.flatMap_append, base.occurrences_subst,
      occurrencesOfAll_subst arguments]
  | .index base position => by
    simp only [Expr.subst, Expr.occurrences, List.flatMap_append, base.occurrences_subst,
      position.occurrences_subst]
  | .binary _ left right => by
    simp only [Expr.subst, Expr.occurrences, List.flatMap_append, left.occurrences_subst,
      right.occurrences_subst]
  | .conditional condition whenTrue whenFalse => by
    simp only [Expr.subst, Expr.occurrences, List.flatMap_append, condition.occurrences_subst,
      whenTrue.occurrences_subst, whenFalse.occurrences_subst]
  | .elvis value fallback => by
    simp only [Expr.subst, Expr.occurrences, List.flatMap_append, value.occurrences_subst,
      fallback.occurrences_subst]

theorem occurrencesOfAll_subst : ∀ es : List Expr,
    occurrencesOfAll (substAll σ es) = (occurrencesOfAll es).flatMap fun r => (σ r).occurrences
  | [] => rfl
  | e :: es => by
    simp only [substAll, occurrencesOfAll, List.flatMap_append, e.occurrences_subst,
      occurrencesOfAll_subst es]

end

end

/-! ### Outcomes -/

section

variable {m : Type → Type} [Monad m] [Evaluator m] {σ : Reference → Expr} {c c' : Context}

@[simp] theorem Reference.evalIn_expr (c : Context) (r : Reference) :
    (r.expr.evalIn c : m Value) = ofOutcome (r.read c) := by
  cases r <;> rfl

mutual

/-- If what replaces the names has in one context the outcomes that the names have in another one, the
whole has the outcome that it had there. -/
theorem Expr.evalIn_subst (h : ∀ r, ((σ r).evalIn c : m Value) = ofOutcome (r.read c')) :
    ∀ e : Expr, ((e.subst σ).evalIn c : m Value) = e.evalIn c'
  | .literal _ => rfl
  | .identifier name => h (.identifier name)
  | .binding name => h (.binding name)
  | .component name => h (.component name)
  | .property base _ _ => by rw [Expr.subst, Expr.evalIn, Expr.evalIn, base.evalIn_subst h]
  | .call base _ arguments _ => by
    rw [Expr.subst, Expr.evalIn, Expr.evalIn, base.evalIn_subst h, evalAllIn_subst h arguments]
  | .index base position => by
    rw [Expr.subst, Expr.evalIn, Expr.evalIn, base.evalIn_subst h, position.evalIn_subst h]
  | .binary _ left right => by
    rw [Expr.subst, Expr.evalIn, Expr.evalIn, left.evalIn_subst h, right.evalIn_subst h]
  | .unary _ operand => by rw [Expr.subst, Expr.evalIn, Expr.evalIn, operand.evalIn_subst h]
  | .conditional condition whenTrue whenFalse => by
    rw [Expr.subst, Expr.evalIn, Expr.evalIn, condition.evalIn_subst h, whenTrue.evalIn_subst h,
      whenFalse.evalIn_subst h]
  | .elvis value fallback => by
    rw [Expr.subst, Expr.evalIn, Expr.evalIn, value.evalIn_subst h, fallback.evalIn_subst h]
  | .list items => by rw [Expr.subst, Expr.evalIn, Expr.evalIn, evalAllIn_subst h items]

theorem evalAllIn_subst (h : ∀ r, ((σ r).evalIn c : m Value) = ofOutcome (r.read c')) :
    ∀ es : List Expr, (evalAllIn c (substAll σ es) : m (List Value)) = evalAllIn c' es
  | [] => rfl
  | e :: es => by rw [substAll, evalAllIn, evalAllIn, e.evalIn_subst h, evalAllIn_subst h es]

end

end

/-! ### Replacing a name by what it is bound to -/

section

variable {c : Context} {s : Expr} {v : Value}

/-- A name is bound to the value that its replacement has, or it is another one and has stayed. -/
theorem eval_replacing (h : s.eval c = .ok v) (name : String) (r : Reference) :
    (replacing name s r).eval c = r.read (c.withBinding name v) := by
  unfold replacing
  split
  · next hr =>
    -- one of the two ways to write the name; the component of that name is none of them
    have hresolve : r.resolve? (c.withBinding name v) = some v := by
      have hbound : (c.withBinding name v).binding? name = some v := by
        rw [c.binding?_withBinding, if_pos rfl]
      rcases hr with rfl | rfl
      · exact Context.lookup?_of_binding? hbound
      · exact hbound
    rw [h, Reference.read, hresolve]
  · next hr =>
    refine r.evalIn_expr c |>.trans (Reference.read_congr ?_)
    obtain ⟨hidentifier, hbinding⟩ := not_or.mp hr
    -- any other name is looked up past the new binding
    have hother : ∀ other, other ≠ name →
        c.binding? other = (c.withBinding name v).binding? other := fun other hne => by
      rw [c.binding?_withBinding, if_neg (Ne.symm hne)]
    cases r with
    | identifier other =>
      have hne : other ≠ name := fun heq => hidentifier (heq ▸ rfl)
      exact Context.lookup?_congr (hother other hne) fun _ => rfl
    | binding other => exact hother other fun heq => hbinding (heq ▸ rfl)
    | component other => rfl

end

/-- **Substitution agrees with binding.**  An expression with `s` in the place of a name has the
outcome, be it a value or an error, that it has where the name is bound to the value of `s`.  It is the
places of the name written bare or with `#` that are replaced, all of them and no others.  The binding
stands before a component of its name, and the components stay what they are. -/
theorem eval_replace_eq_eval_withBinding (c : Context) (name : String) (s e : Expr) (v : Value)
    (h : s.eval c = .ok v) :
    (e.replace name s).eval c = e.eval (c.withBinding name v) ∧
      (e.replace name s).occurrences =
        (e.occurrences.flatMap fun r =>
          if r = .identifier name ∨ r = .binding name then s.occurrences else [r]) ∧
      (c.withBinding name v).lookup? name = some v ∧
      ∀ other, (c.withBinding name v).component? other = c.component? other := by
  refine ⟨e.evalIn_subst (eval_replacing h name), ?_, ?_, fun other => rfl⟩
  · rw [Expr.replace, Expr.occurrences_subst]
    refine congrArg (fun f => e.occurrences.flatMap f) (funext fun r => ?_)
    unfold replacing
    split
    · rfl
    · exact r.occurrences_expr
  · exact Context.lookup?_of_binding? (by rw [c.binding?_withBinding, if_pos rfl])

/-- In the place of a name of which there is a component too: the two ways of writing the name are
replaced and the component is not. -/
theorem eval_replace_of_component :
    let c : Context := ⟨[("n", .integer 4)], some ⟨fun _ => some (.integer 100)⟩⟩
    let s : Expr := .binary .multiply (.identifier "n") (.literal (.integer 2))
    let e : Expr := .binary .add (.binary .add (.identifier "x") (.binding "x")) (.component "x")
    s.eval c = .ok (.integer 8) ∧
      (e.replace "x" s).eval c = e.eval (c.withBinding "x" (.integer 8)) ∧
      e.eval (c.withBinding "x" (.integer 8)) = .ok (.integer 116) ∧
      (e.replace "x" s).occurrences = [.identifier "n", .identifier "n", .component "x"] ∧
      (c.withBinding "x" (.integer 8)).lookup? "x" = some (.integer 8) := by
  intro c s e
  have hs : s.eval c = .ok (.integer 8) := by rfl
  obtain ⟨heval, hoccurrences, hlookup, -⟩ :=
    eval_replace_eq_eval_withBinding c "x" s e (.integer 8) hs
  exact ⟨hs, heval, by rfl, hoccurrences, hlookup⟩

end ExprLang
