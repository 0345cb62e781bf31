import ExprLang.Context
import ExprLang.Expr
import ExprLang.Value.Operation

/-!
# Evaluation

The value of an expression in a context.  Operands are evaluated from the left to the right, and the
first error ends the evaluation; connectives, conditionals and fallbacks evaluate only what
they need, and a null-safe access to null evaluates nothing more.

Patterns can be read anew each time, or be remembered from one evaluation to the next.  An evaluation
does not know of that: it is carried out wherever there are outcomes of operations and a way to match
a text with a pattern.

## Main definitions

* `Reference.resolve?` — the value a name has in a context.
* `Evaluator` — where expressions can be evaluated.
* `Expr.evalIn`, `Expr.eval` — the value of an expression there, and its plain outcome.

## References

`SPEC_FULL.md`, 10.1; the reference's `Interpreter`, with `evaluate`, `evaluate_binary` and
`evaluate_method_call`.
-/

namespace ExprLang

/-- The value that a literal writes out. -/
def Literal.value : Literal → Value
  | null => .null
  | boolean b => .boolean b
  | integer n => .integer n
  | decimal d => .decimal d
  | string s => .string s

namespace Reference

/-- The value of a name, looked up the way it is written. -/
def resolve? (c : Context) : Reference → Option Value
  | identifier name => c.lookup? name
  | binding name => c.binding? name
  | component name => c.component? name

/-- The error of a name that has no value. -/
def unresolved : Reference → EvalError
  | identifier name => .unresolvedReference name
  | binding name => .unresolvedReference ("#" ++ name)
  | component name => .unresolvedComponent name

/-- The value of a name, or the error that it has none. -/
def read (c : Context) (r : Reference) : Outcome Value :=
  match r.resolve? c with
  | some v => .ok v
  | none => .error r.unresolved

end Reference

/-- The truth of a condition, for which null counts as false. -/
def Value.condition : Value → Outcome Bool
  | boolean b => .ok b
  | null => .ok false
  | v => .error (.typeMismatch "?:" "Boolean" v.kind)

/-! ### Where expressions are evaluated -/

/-- Operations have outcomes, and texts can be matched with patterns. -/
class Evaluator (m : Type → Type) where
  ofOutcome {α : Type} : Outcome α → m α
  /-- Whether a text matches a pattern as a whole, if it is one. -/
  fullMatch? (pattern text : String) : m (Option Bool)

export Evaluator (ofOutcome)

/-- Plainly, each pattern is read anew. -/
instance : Evaluator Outcome where
  ofOutcome x := x
  fullMatch? pattern text := .ok (Pattern.fullMatch? pattern text)

variable {m : Type → Type} [Monad m] [Evaluator m]

/-- The operators between two values. -/
def Value.binaryIn (op : BinaryOperator) (a b : Value) : m Value :=
  match op with
  | .fullMatch => do
    let (pattern, text) ← ofOutcome (matchOperands a b)
    let found ← Evaluator.fullMatch? pattern text
    ofOutcome (matched pattern found)
  | op => ofOutcome (a.binary op b)

theorem Value.binaryIn_outcome (op : BinaryOperator) (a b : Value) :
    (a.binaryIn op b : Outcome Value) = a.binary op b := by
  cases op <;> rfl

/-! ### Expressions -/

mutual

/-- The value of an expression in a context. -/
def Expr.evalIn (c : Context) : Expr → m Value
  | .literal l => pure l.value
  | .identifier name => ofOutcome ((Reference.identifier name).read c)
  | .binding name => ofOutcome ((Reference.binding name).read c)
  | .component name => ofOutcome ((Reference.component name).read c)
  | .property base name nullSafe => do
    let v ← base.evalIn c
    if nullSafe && v.isNull then pure .null else ofOutcome (v.property name)
  | .call base method arguments nullSafe => do
    let receiver ← base.evalIn c
    if receiver.isNull then
      if nullSafe then pure .null else ofOutcome (.error (.nullReference (.call method)))
    else ofOutcome (receiver.invoke method (← evalAllIn c arguments))
  | .index base position => do
    let v ← base.evalIn c
    ofOutcome (v.index (← position.evalIn c))
  | .binary op left right => do
    let a ← left.evalIn c
    if op.isShortCircuit then
      let b ← ofOutcome (Value.requireBoolean op a)
      if b == (op == .or) then pure (.boolean b)
      else return .boolean (← ofOutcome (Value.requireBoolean op (← right.evalIn c)))
    else a.binaryIn op (← right.evalIn c)
  | .unary op operand => do
    let v ← operand.evalIn c
    ofOutcome (v.unary op)
  | .conditional condition whenTrue whenFalse => do
    let v ← condition.evalIn c
    if ← ofOutcome v.condition then whenTrue.evalIn c else whenFalse.evalIn c
  | .elvis value fallback => do
    let v ← value.evalIn c
    if v.isNull then fallback.evalIn c else pure v
  | .list items => do return .list (← evalAllIn c items)

/-- The values of several expressions, from the left to the right. -/
def evalAllIn (c : Context) : List Expr → m (List Value)
  | [] => pure []
  | e :: es => do
    let v ← e.evalIn c
    return v :: (← evalAllIn c es)

end

/-- The outcome of an expression in a context. -/
abbrev Expr.eval (c : Context) (e : Expr) : Outcome Value := e.evalIn c

/-- The outcome of several expressions. -/
abbrev evalAll (c : Context) (es : List Expr) : Outcome (List Value) := evalAllIn c es

end ExprLang
