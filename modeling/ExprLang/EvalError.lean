import ExprLang.Operator
import ExprLang.Value

/-!
# Errors of evaluation

Why an expression has no value, and the message that says so.

## Main definitions

* `EvalError`, `EvalError.message` — the errors.
* `ConversionError` — the failure to see a value as another type, which is one of them.

## References

`SPEC_FULL.md`, 7 and 10.8; the reference's `EvaluationError`.
-/

namespace ExprLang

/-- A value that cannot be seen as another type. -/
structure ConversionError where
  source : Value.Kind
  target : String
  deriving DecidableEq, Repr

def ConversionError.message (e : ConversionError) : String :=
  "Conversion error: cannot convert " ++ e.source.name ++ " to " ++ e.target

/-- The ways in which arithmetic can have no result. -/
inductive ArithmeticError
  | divisionByZero
  | negationOverflow
  | integerOverflow (a : Int64) (op : BinaryOperator) (b : Int64)
  | decimalOverflow (a : Decimal) (op : BinaryOperator) (b : Decimal)
  /-- A size that no integer can state. -/
  | lengthOverflow
  deriving DecidableEq, Repr

def ArithmeticError.message : ArithmeticError → String
  | divisionByZero => "division by zero"
  | negationOverflow => "integer overflow in negation"
  | integerOverflow a op b =>
    "integer overflow in " ++ Integer.text a ++ " " ++ op.symbol ++ " " ++ Integer.text b
  | decimalOverflow a op b => "decimal overflow in " ++ a.text ++ " " ++ op.symbol ++ " " ++ b.text
  | lengthOverflow => "length exceeds integer range"

/-- What cannot be done to null. -/
inductive NullUse
  | property (name : String)
  | call (method : String)
  | index
  deriving DecidableEq, Repr

def NullUse.text : NullUse → String
  | property name => "access property '" ++ name ++ "'"
  | call method => "call '" ++ method ++ "()'"
  | index => "index"

/-- The ways in which an expression can have no value. -/
inductive EvalError
  | unresolvedReference (name : String)
  | unresolvedComponent (name : String)
  | unknownProperty (property : String) (found : Value.Kind)
  | nullReference (use : NullUse)
  | typeMismatch (operation expected : String) (found : Value.Kind)
  | arithmetic (cause : ArithmeticError)
  | indexOutOfBounds (index : Int64) (size : Nat)
  | unknownMethod (method : String) (found : Value.Kind)
  | invalidArgumentCount (method : String) (expected actual : Nat)
  | invalidPattern (pattern : String)
  | conversion (cause : ConversionError)
  deriving DecidableEq, Repr

def EvalError.message : EvalError → String
  | unresolvedReference name => "Unresolved reference '" ++ name ++ "'"
  | unresolvedComponent name => "Unresolved component '@" ++ name ++ "'"
  | unknownProperty property found => "Property '" ++ property ++ "' not found on " ++ found.name
  | nullReference use => "Cannot " ++ use.text ++ " on null"
  | typeMismatch operation expected found =>
    "Type mismatch in " ++ operation ++ ": expected " ++ expected ++ ", found " ++ found.name
  | arithmetic cause => "Arithmetic error: " ++ cause.message
  | indexOutOfBounds index size =>
    "Index " ++ Integer.text index ++ " out of bounds for size " ++ intText size
  | unknownMethod method found => "Unknown method '" ++ method ++ "' on " ++ found.name
  | invalidArgumentCount method expected actual =>
    "Method '" ++ method ++ "' expects " ++ intText expected ++ " arguments, got " ++
      intText actual
  | invalidPattern pattern => "Invalid pattern '" ++ pattern ++ "'"
  | conversion cause => cause.message

/-- What an evaluation comes to. -/
abbrev Outcome := Except EvalError

end ExprLang
