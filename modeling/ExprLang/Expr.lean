import ExprLang.Operator
import ExprLang.Number.Decimal

/-!
# Expressions

The trees that the language's texts stand for, and the names they refer to.

## Main definitions

* `Literal`, `Expr` — the trees.
* `Reference` — a name whose value comes from outside.
* `Expr.occurrences`, `Expr.references` — the names of a tree from left to right, all of them and
  each once.

## References

`SPEC_FULL.md`, 10.1; the reference's `ExpressionNode`, `LiteralValue` and `Reference`, with
`collect_references` and `push_unique`.
-/

namespace ExprLang

/-- The values that can be written out. -/
inductive Literal
  | null
  | boolean (b : Bool)
  | integer (n : Int64)
  | decimal (d : Decimal)
  | string (s : String)
  deriving DecidableEq, Repr

/-- An expression.  A null-safe access or call (`?.`) passes a null base on. -/
inductive Expr
  | literal (value : Literal)
  /-- A bare name: a binding, or else a component. -/
  | identifier (name : String)
  /-- A binding, written `#name`. -/
  | binding (name : String)
  /-- A component of the registry, written `@name`. -/
  | component (name : String)
  | property (base : Expr) (name : String) (nullSafe : Bool)
  | call (base : Expr) (method : String) (arguments : List Expr) (nullSafe : Bool)
  | index (base position : Expr)
  | binary (op : BinaryOperator) (left right : Expr)
  | unary (op : UnaryOperator) (operand : Expr)
  | conditional (condition whenTrue whenFalse : Expr)
  /-- The value, or the fallback in place of null. -/
  | elvis (value fallback : Expr)
  | list (items : List Expr)
  deriving Repr

instance : Inhabited Expr := ⟨.literal .null⟩

/-! ### Equality -/

mutual

/-- Whether two expressions are the same. -/
def Expr.beq : Expr → Expr → Bool
  | .literal v, .literal v' => v = v'
  | .identifier n, .identifier n' | .binding n, .binding n' | .component n, .component n' => n = n'
  | .property b n s, .property b' n' s' => b.beq b' && n = n' && s = s'
  | .call b m as s, .call b' m' as' s' => b.beq b' && m = m' && beqAll as as' && s = s'
  | .index b p, .index b' p' => b.beq b' && p.beq p'
  | .binary op l r, .binary op' l' r' => op = op' && l.beq l' && r.beq r'
  | .unary op e, .unary op' e' => op = op' && e.beq e'
  | .conditional c t f, .conditional c' t' f' => c.beq c' && t.beq t' && f.beq f'
  | .elvis v f, .elvis v' f' => v.beq v' && f.beq f'
  | .list es, .list es' => beqAll es es'
  | _, _ => false

/-- Whether expressions are the same one by one. -/
def beqAll : List Expr → List Expr → Bool
  | [], [] => true
  | e :: es, e' :: es' => e.beq e' && beqAll es es'
  | _, _ => false

end

mutual

theorem Expr.beq_iff : ∀ e e' : Expr, e.beq e' = true ↔ e = e'
  | .literal _, e' | .identifier _, e' | .binding _, e' | .component _, e' => by
    cases e' <;> simp [Expr.beq]
  | .property b _ _, e' => by cases e' <;> simp [Expr.beq, b.beq_iff, and_assoc]
  | .call b _ as _, e' => by cases e' <;> simp [Expr.beq, b.beq_iff, beqAll_iff as, and_assoc]
  | .index b p, e' => by cases e' <;> simp [Expr.beq, b.beq_iff, p.beq_iff]
  | .binary _ l r, e' => by cases e' <;> simp [Expr.beq, l.beq_iff, r.beq_iff, and_assoc]
  | .unary _ e, e' => by cases e' <;> simp [Expr.beq, e.beq_iff]
  | .conditional c t f, e' => by
    cases e' <;> simp [Expr.beq, c.beq_iff, t.beq_iff, f.beq_iff, and_assoc]
  | .elvis v f, e' => by cases e' <;> simp [Expr.beq, v.beq_iff, f.beq_iff]
  | .list es, e' => by cases e' <;> simp [Expr.beq, beqAll_iff es]

theorem beqAll_iff : ∀ es es' : List Expr, beqAll es es' = true ↔ es = es'
  | [], es' => by cases es' <;> simp [beqAll]
  | e :: es, es' => by cases es' <;> simp [beqAll, e.beq_iff, beqAll_iff es]

end

instance : DecidableEq Expr := fun e e' => decidable_of_iff _ (e.beq_iff e')

/-! ### References -/

/-- A name that an expression reads from its surroundings, with where it is looked up. -/
inductive Reference
  | identifier (name : String)
  | binding (name : String)
  | component (name : String)
  deriving DecidableEq, Repr

mutual

/-- The names of an expression in the order they are written, each as often as it is. -/
def Expr.occurrences : Expr → List Reference
  | .literal _ => []
  | .identifier name => [.identifier name]
  | .binding name => [.binding name]
  | .component name => [.component name]
  | .property base _ _ => base.occurrences
  | .call base _ arguments _ => base.occurrences ++ occurrencesOfAll arguments
  | .index base position => base.occurrences ++ position.occurrences
  | .binary _ left right => left.occurrences ++ right.occurrences
  | .unary _ operand => operand.occurrences
  | .conditional condition whenTrue whenFalse =>
    condition.occurrences ++ whenTrue.occurrences ++ whenFalse.occurrences
  | .elvis value fallback => value.occurrences ++ fallback.occurrences
  | .list items => occurrencesOfAll items

/-- The names of several expressions, one after the other. -/
def occurrencesOfAll : List Expr → List Reference
  | [] => []
  | e :: es => e.occurrences ++ occurrencesOfAll es

end

/-- The names of an expression in the order of their first appearance. -/
def Expr.references (e : Expr) : List Reference := e.occurrences.eraseDups

end ExprLang
