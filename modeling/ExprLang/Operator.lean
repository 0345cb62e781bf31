/-!
# Operators

The operators of the language with the symbols they are written as, and the levels of binding
strength they fall into.

## Main definitions

* `BinaryOperator`, `UnaryOperator` — the operators.
* `Precedence` — the levels, from the conditional to the member access.
* `BinaryOperator.precedence` — the level of an operator.

## References

`SPEC_FULL.md`, 10.1; the reference's `BinaryOperator`, `UnaryOperator` and `Precedence`, with
`binary_operator` and `next_level`.
-/

namespace ExprLang

/-- The operators between two operands. -/
inductive BinaryOperator
  | add
  | subtract
  | multiply
  | divide
  | modulo
  | equal
  | notEqual
  | lessThan
  | lessThanOrEqual
  | greaterThan
  | greaterThanOrEqual
  /-- The whole text matches a pattern. -/
  | fullMatch
  | and
  | or
  deriving DecidableEq, Repr

/-- The operators before one operand. -/
inductive UnaryOperator
  | negate
  | not
  deriving DecidableEq, Repr

/-- The levels of binding strength, from the weakest to the strongest. -/
inductive Precedence
  | ternary
  | or
  | and
  | equality
  | relational
  | additive
  | multiplicative
  | unary
  /-- Member access, calls and indexing. -/
  | member
  deriving DecidableEq, Repr

namespace Precedence

/-- The place of a level, counted from one. -/
def level : Precedence → Nat
  | ternary => 1
  | or => 2
  | and => 3
  | equality => 4
  | relational => 5
  | additive => 6
  | multiplicative => 7
  | unary => 8
  | member => 9

/-- The next stronger level; the strongest is its own. -/
def next : Precedence → Precedence
  | ternary => or
  | or => and
  | and => equality
  | equality => relational
  | relational => additive
  | additive => multiplicative
  | multiplicative => unary
  | unary => member
  | member => member

/-- Whether an operator of this level may be taken up where operands of level `least` are due. -/
def admits (least p : Precedence) : Bool := least.level ≤ p.level

end Precedence

namespace BinaryOperator

/-- The symbol or word an operator is written as. -/
def symbol : BinaryOperator → String
  | add => "+"
  | subtract => "-"
  | multiply => "*"
  | divide => "/"
  | modulo => "%"
  | equal => "=="
  | notEqual => "!="
  | lessThan => "<"
  | lessThanOrEqual => "<="
  | greaterThan => ">"
  | greaterThanOrEqual => ">="
  | fullMatch => "matches"
  | and => "and"
  | or => "or"

def precedence : BinaryOperator → Precedence
  | or => .or
  | and => .and
  | equal | notEqual | fullMatch => .equality
  | lessThan | lessThanOrEqual | greaterThan | greaterThanOrEqual => .relational
  | add | subtract => .additive
  | multiply | divide | modulo => .multiplicative

/-- Whether the right operand may be left unevaluated. -/
def isShortCircuit : BinaryOperator → Bool
  | and | or => true
  | _ => false

end BinaryOperator

/-- The symbol an operator is written as. -/
def UnaryOperator.symbol : UnaryOperator → String
  | negate => "-"
  | not => "!"

end ExprLang
