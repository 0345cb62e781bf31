import ExprLang.Entries
import ExprLang.Number.Decimal

/-!
# Values

What expressions evaluate to, and what bindings and components hold.

## Main definitions

* `Value`, `Value.Kind` — values and their types.
* `Value.text` — the text a value is shown as, and joined to texts as.
* `Value.asDecimal?` and its like — the views of a value as one type.

## References

`SPEC_FULL.md`, 10.1, on values; the reference's `Value`, with `type_name` and the way it is
displayed.
-/

namespace ExprLang

/-- A dynamically typed value. -/
inductive Value
  | null
  | boolean (b : Bool)
  | integer (n : Int64)
  | decimal (d : Decimal)
  | string (s : String)
  | list (items : List Value)
  | map (entries : List (String × Value))
  deriving Repr

instance : Inhabited Value := ⟨.null⟩

namespace Value

/-- The types of values. -/
inductive Kind
  | null
  | boolean
  | integer
  | decimal
  | string
  | list
  | map
  deriving DecidableEq, Repr

/-- The name of a type in messages. -/
def Kind.name : Kind → String
  | null => "Null"
  | boolean => "Boolean"
  | integer => "Integer"
  | decimal => "Decimal"
  | string => "String"
  | list => "List"
  | map => "Map"

def kind : Value → Kind
  | null => .null
  | boolean _ => .boolean
  | integer _ => .integer
  | decimal _ => .decimal
  | string _ => .string
  | list _ => .list
  | map _ => .map

/-! ### Views -/

def isNull : Value → Bool
  | null => true
  | _ => false

def isNumeric : Value → Bool
  | integer _ | decimal _ => true
  | _ => false

def asBoolean? : Value → Option Bool
  | boolean b => some b
  | _ => none

def asInteger? : Value → Option Int64
  | integer n => some n
  | _ => none

/-- A number as a decimal, an integer included. -/
def asDecimal? : Value → Option Decimal
  | integer n => some (.ofInteger n)
  | decimal d => some d
  | _ => none

def asString? : Value → Option String
  | string s => some s
  | _ => none

def asList? : Value → Option (List Value)
  | list items => some items
  | _ => none

def asMap? : Value → Option (Entries Value)
  | map entries => some entries
  | _ => none

/-! ### The shown text -/

mutual

/-- The text of a value.  Strings stand as they are, inside of lists and maps as well. -/
def text : Value → String
  | null => "null"
  | boolean b => if b then "true" else "false"
  | integer n => Integer.text n
  | decimal d => d.text
  | string s => s
  | list items => "[" ++ ", ".intercalate (itemTexts items) ++ "]"
  | map entries => "\x7b" ++ ", ".intercalate (entryTexts entries) ++ "\x7d"

/-- The texts of the items of a list. -/
def itemTexts : List Value → List String
  | [] => []
  | v :: vs => v.text :: itemTexts vs

/-- The texts of the entries of a map. -/
def entryTexts : List (String × Value) → List String
  | [] => []
  | (k, v) :: rest => (k ++ "=" ++ v.text) :: entryTexts rest

end

/-! ### Distinct names -/

mutual

/-- No map in a value has two entries of one name. -/
def WellFormed : Value → Prop
  | list items => WellFormedItems items
  | map entries => (Entries.keys entries).Nodup ∧ WellFormedEntries entries
  | _ => True

/-- The items of a list are well-formed. -/
def WellFormedItems : List Value → Prop
  | [] => True
  | v :: vs => v.WellFormed ∧ WellFormedItems vs

/-- The values of a map's entries are well-formed. -/
def WellFormedEntries : List (String × Value) → Prop
  | [] => True
  | (_, v) :: rest => v.WellFormed ∧ WellFormedEntries rest

end

end Value
end ExprLang
