import ExprLang.EvalError
import ExprLang.Number.Decimal.Double
import ExprLang.Number.Decimal.Reading
import ExprLang.Text.Blank

/-!
# Coercion

Values seen as values of a given type.  A coercion never loses a part of a number: a decimal is an
integer only if it is whole, and a number is of a narrower type only if it lies in its range.
Texts are read as what they write; everything can be seen as text.

## Main definitions

* `Coercible` — the types that values can be seen as, and how.

## References

`SPEC_FULL.md`, 10.2; the reference's `FromValue`.
-/

namespace ExprLang

open scoped CorePower

/-- The types that values can be seen as. -/
class Coercible (α : Type) where
  /-- The name of the type in messages. -/
  typeName : String
  ofValue : Value → Except ConversionError α

namespace Coercible

/-- The failure to see a value as the type `α`. -/
def mismatch (α : Type) [Coercible α] (v : Value) : ConversionError := ⟨v.kind, typeName α⟩

instance : Coercible Value := ⟨"Value", .ok⟩

/-- The truth value that a text writes, in letters of either case. -/
def readBoolean? (s : String) : Option Bool :=
  let cs := s.toList.map Char.toLower
  if cs = "true".toList then some true else if cs = "false".toList then some false else none

/-- The truth value of a Boolean or of a text that writes one. -/
def boolean? : Value → Option Bool
  | .boolean b => some b
  | .string s => readBoolean? s
  | _ => none

/-- The integer that a value is or writes. -/
def integer? : Value → Option Int64
  | .integer n => some n
  | .decimal d => d.toInteger?
  | .string s => Integer.read? (trimList s.toList)
  | _ => none

/-- The decimal that a value is or writes. -/
def decimal? : Value → Option Decimal
  | .integer n => some (.ofInteger n)
  | .decimal d => some d
  | .string s => Decimal.read? (trimList s.toList)
  | _ => none

/-- The double nearest to what a value is or writes. -/
def double? : Value → Option Float
  | .integer n => some (Double.ofInt n.toInt)
  | .decimal d => some d.toDouble
  | .string s => Double.read? (trimList s.toList)
  | _ => none

/-- Takes what was found, or fails with the name of the type that was wanted. -/
def orMismatch {α : Type} (typeName : String) (v : Value) : Option α → Except ConversionError α
  | some a => .ok a
  | none => .error ⟨v.kind, typeName⟩

instance : Coercible Bool := ⟨"Boolean", fun v => orMismatch "Boolean" v (boolean? v)⟩

instance : Coercible Int64 := ⟨"Integer", fun v => orMismatch "Integer" v (integer? v)⟩

/-- The integers of 32 bits, by way of those of 64. -/
instance : Coercible Int32 :=
  ⟨"Integer", fun v => do
    let n ← (ofValue v : Except ConversionError Int64)
    orMismatch "32-bit Integer" v
      (if -2 ^ (31 : Nat) ≤ n.toInt ∧ n.toInt < 2 ^ (31 : Nat) then some (.ofInt n.toInt) else none)⟩

/-- The integers without a sign, by way of those with one. -/
instance : Coercible UInt64 :=
  ⟨"Unsigned Integer", fun v => do
    let n ← (ofValue v : Except ConversionError Int64)
    orMismatch "Unsigned Integer" v (if 0 ≤ n.toInt then some (.ofNat n.toInt.toNat) else none)⟩

instance : Coercible Decimal := ⟨"Decimal", fun v => orMismatch "Decimal" v (decimal? v)⟩

instance : Coercible Float := ⟨"Float", fun v => orMismatch "Float" v (double? v)⟩

/-- Every value has a text. -/
instance : Coercible String := ⟨"String", fun v => .ok v.text⟩

instance : Coercible (Entries Value) := ⟨"Map", fun v => orMismatch "Map" v v.asMap?⟩

/-- Lists whose items can be coerced; the first that cannot be is the failure. -/
instance {α : Type} [Coercible α] : Coercible (List α) :=
  ⟨"List", fun v =>
    match v with
    | .list items => items.mapM ofValue
    | v => .error ⟨v.kind, "List"⟩⟩

end Coercible
end ExprLang
