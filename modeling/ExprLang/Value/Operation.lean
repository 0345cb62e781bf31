import ExprLang.EvalError
import ExprLang.Number.Decimal.Arithmetic
import ExprLang.Pattern.Parser
import ExprLang.Text.Blank
import ExprLang.Text.Case
import ExprLang.Value.Equality

/-!
# Operations on values

What the operators, accesses and methods of the language do to values that are known.

## Main definitions

* `Value.arithmetic`, `Value.add`, `Value.negate` — the operators on numbers, and joining.
* `Value.binary` — every operator that needs both of its operands.
* `Value.property`, `Value.index` — access by name and by position.
* `Value.invoke` — the methods.

## References

`SPEC_FULL.md`, 10.1; the reference's `property`, `index_value`, `unary`, `binary`, `add`,
`arithmetic`, `length_of` and `call_method`.
-/

namespace ExprLang

/-! ### Arithmetic -/

/-- The result of an operator on integers. -/
def integerArithmetic (op : BinaryOperator) (a b : Int64) : Outcome Int64 :=
  let result := match op with
    | .add => Integer.add? a b
    | .subtract => Integer.sub? a b
    | .multiply => Integer.mul? a b
    | .divide => Integer.div? a b
    | .modulo => Integer.rem? a b
    | _ => none
  if (op = .divide ∨ op = .modulo) ∧ b = 0 then .error (.arithmetic .divisionByZero)
  else
    match result with
    | some n => .ok n
    | none => .error (.arithmetic (.integerOverflow a op b))

/-- The result of an operator on decimals. -/
def decimalArithmetic (op : BinaryOperator) (a b : Decimal) : Outcome Decimal :=
  let result := match op with
    | .add => a.add? b
    | .subtract => a.sub? b
    | .multiply => a.mul? b
    | .divide => a.div? b
    | .modulo => a.rem? b
    | _ => none
  if (op = .divide ∨ op = .modulo) ∧ b.isZero then .error (.arithmetic .divisionByZero)
  else
    match result with
    | some d => .ok d
    | none => .error (.arithmetic (.decimalOverflow a op b))

namespace Value

/-- Arithmetic on two numbers: on integers if both are, else on decimals.  The operand that is no
number is at fault, the left one first. -/
def arithmetic (op : BinaryOperator) (a b : Value) : Outcome Value :=
  match a, b with
  | integer m, integer n => integer <$> integerArithmetic op m n
  | a, b =>
    match a.asDecimal?, b.asDecimal? with
    | some d, some e => decimal <$> decimalArithmetic op d e
    | some _, none => .error (.typeMismatch op.symbol "Integer or Decimal" b.kind)
    | none, _ => .error (.typeMismatch op.symbol "Integer or Decimal" a.kind)

/-- The plus sign: it joins texts if either side is one, joins lists, and adds numbers. -/
def add (a b : Value) : Outcome Value :=
  match a, b with
  | string s, b => .ok (string (s ++ b.text))
  | a, string t => .ok (string (a.text ++ t))
  | list xs, list ys => .ok (list (xs ++ ys))
  | a, b => arithmetic .add a b

/-- The minus sign before a number. -/
def negate : Value → Outcome Value
  | integer n =>
    match Integer.neg? n with
    | some m => .ok (integer m)
    | none => .error (.arithmetic .negationOverflow)
  | decimal d => .ok (decimal d.neg)
  | v => .error (.typeMismatch UnaryOperator.negate.symbol "Integer or Decimal" v.kind)

/-- The operators before a value. -/
def unary : UnaryOperator → Value → Outcome Value
  | .negate, v => v.negate
  | .not, boolean b => .ok (boolean !b)
  | .not, v => .error (.typeMismatch UnaryOperator.not.symbol "Boolean" v.kind)

/-! ### Comparison and matching -/

/-- The order of two values, or what is wrong with one of them: the right one if the left could be
ordered, else the left one. -/
def compareFor (op : BinaryOperator) (a b : Value) : Outcome Ordering :=
  match a.order? b with
  | some o => .ok o
  | none =>
    let atFault := if a.isNumeric || a.asString?.isSome then b else a
    .error (.typeMismatch op.symbol "two numbers or two strings" atFault.kind)

/-- A pattern and the text to be matched with it, which have to be texts both. -/
def matchOperands (a b : Value) : Outcome (String × String) :=
  match a, b with
  | string text, string pattern => .ok (pattern, text)
  | string _, b => .error (.typeMismatch BinaryOperator.fullMatch.symbol "String" b.kind)
  | a, _ => .error (.typeMismatch BinaryOperator.fullMatch.symbol "String" a.kind)

/-- The outcome of matching with a pattern, if it is one. -/
def matched (pattern : String) : Option Bool → Outcome Value
  | some yes => .ok (boolean yes)
  | none => .error (.invalidPattern pattern)

/-- Whether a text matches a pattern as a whole. -/
def fullMatch (a b : Value) : Outcome Value := do
  let (pattern, text) ← matchOperands a b
  matched pattern (Pattern.fullMatch? pattern text)

/-- An operand of a connective, which has to be a Boolean. -/
def requireBoolean (op : BinaryOperator) : Value → Outcome Bool
  | boolean b => .ok b
  | v => .error (.typeMismatch op.symbol "Boolean" v.kind)

/-- The operators between two values. -/
def binary (op : BinaryOperator) (a b : Value) : Outcome Value :=
  match op with
  | .add => add a b
  | .subtract | .multiply | .divide | .modulo => arithmetic op a b
  | .equal => .ok (boolean (a.equals b))
  | .notEqual => .ok (boolean !(a.equals b))
  | .lessThan => (fun o => boolean (o == .lt)) <$> compareFor op a b
  | .lessThanOrEqual => (fun o => boolean (o != .gt)) <$> compareFor op a b
  | .greaterThan => (fun o => boolean (o == .gt)) <$> compareFor op a b
  | .greaterThanOrEqual => (fun o => boolean (o != .lt)) <$> compareFor op a b
  | .fullMatch => fullMatch a b
  | .and => do return boolean ((← requireBoolean op a) && (← requireBoolean op b))
  | .or => do return boolean ((← requireBoolean op a) || (← requireBoolean op b))

/-! ### Access -/

/-- The value of a map under a name. -/
def property (name : String) : Value → Outcome Value
  | map entries =>
    match Entries.get? entries name with
    | some v => .ok v
    | none => .error (.unknownProperty name .map)
  | null => .error (.nullReference (.property name))
  | v => .error (.unknownProperty name v.kind)

/-- The item of a list at a position counted from zero. -/
def itemAt {α : Type} (items : List α) (n : Int64) : Outcome α :=
  match if n.toInt < 0 then none else items[n.toInt.toNat]? with
  | some v => .ok v
  | none => .error (.indexOutOfBounds n items.length)

/-- What stands in brackets behind a value: a position in a list or in the characters of a text, or a
name of a map, for which a missing entry is null. -/
def index (base position : Value) : Outcome Value :=
  match base, position with
  | null, _ => .error (.nullReference .index)
  | list items, integer n => itemAt items n
  | string s, integer n => (fun c => string (String.singleton c)) <$> itemAt s.toList n
  | map entries, string name => .ok ((Entries.get? entries name).getD null)
  | map _, p => .error (.typeMismatch "[]" "String" p.kind)
  | list _, p | string _, p => .error (.typeMismatch "[]" "Integer" p.kind)
  | v, _ => .error (.typeMismatch "[]" "List, String or Map" v.kind)

/-! ### Methods -/

/-- The size of a text in characters, of a list in items, of a map in entries. -/
def size? : Value → Option Nat
  | string s => some s.length
  | list items => some items.length
  | map entries => some entries.length
  | _ => none

/-- Whether some characters stand somewhere among others. -/
def hasInfix (needle : List Char) : List Char → Bool
  | [] => needle.isEmpty
  | c :: cs => needle.isPrefixOf (c :: cs) || hasInfix needle cs

/-- An argument that has to be a text. -/
def stringArgument (method : String) : Value → Outcome String
  | string s => .ok s
  | v => .error (.typeMismatch method "String" v.kind)

/-- The methods that every value could have, told by name and number of arguments. -/
inductive Method
  | size
  | isEmpty
  | contains
  | startsWith
  | endsWith
  | toUpperCase
  | toLowerCase
  | trim
  deriving DecidableEq, Repr

namespace Method

/-- The method of a name; the size has two. -/
def ofName? : String → Option Method
  | "size" | "length" => some size
  | "isEmpty" => some isEmpty
  | "contains" => some contains
  | "startsWith" => some startsWith
  | "endsWith" => some endsWith
  | "toUpperCase" => some toUpperCase
  | "toLowerCase" => some toLowerCase
  | "trim" => some trim
  | _ => none

/-- The number of arguments a method takes. -/
def arity : Method → Nat
  | contains | startsWith | endsWith => 1
  | _ => 0

end Method

/-- The result of a method, called by the given name, for the right number of arguments; `argument` is
the first of them. -/
def apply (receiver : Value) (name : String) (argument : Value) : Method → Outcome Value
  | .size =>
    match receiver.size? with
    | some n =>
      match Integer.ofInt? n with
      | some i => .ok (integer i)
      | none => .error (.arithmetic .lengthOverflow)
    | none => .error (.unknownMethod name receiver.kind)
  | .isEmpty =>
    match receiver.size? with
    | some n => .ok (boolean (n == 0))
    | none => .error (.unknownMethod name receiver.kind)
  | .contains =>
    match receiver with
    | string s => do
      let needle ← stringArgument name argument
      return boolean (hasInfix needle.toList s.toList)
    | list items => .ok (boolean (items.any fun v => v.equals argument))
    | map entries => do
      let key ← stringArgument name argument
      return boolean (Entries.contains entries key)
    | v => .error (.unknownMethod name v.kind)
  | .startsWith =>
    match receiver with
    | string s => do
      let affix ← stringArgument name argument
      return boolean (affix.toList.isPrefixOf s.toList)
    | v => .error (.unknownMethod name v.kind)
  | .endsWith =>
    match receiver with
    | string s => do
      let affix ← stringArgument name argument
      return boolean (affix.toList.isSuffixOf s.toList)
    | v => .error (.unknownMethod name v.kind)
  | .toUpperCase =>
    match receiver with
    | string s => .ok (string (upperCase s))
    | v => .error (.unknownMethod name v.kind)
  | .toLowerCase =>
    match receiver with
    | string s => .ok (string (lowerCase s))
    | v => .error (.unknownMethod name v.kind)
  | .trim =>
    match receiver with
    | string s => .ok (string (ExprLang.trim s))
    | v => .error (.unknownMethod name v.kind)

/-- Calls a method.  The number of arguments is checked before the type of the receiver. -/
def invoke (receiver : Value) (name : String) (arguments : List Value) : Outcome Value :=
  match Method.ofName? name with
  | none => .error (.unknownMethod name receiver.kind)
  | some m =>
    if arguments.length = m.arity then receiver.apply name (arguments.headD null) m
    else .error (.invalidArgumentCount name m.arity arguments.length)

end Value
end ExprLang
