import ExprLang.Context
import ExprLang.Text.Quoted

/-!
# Inspection

Texts that show how a value is built: its type stands before it, and strings stand between quotes.
The plain text of a value, by contrast, is the same for the string `1` and the integer `1`.

## Main definitions

* `Value.inspect` — the text of a value.
* `Context.inspect` — the text of a context.
-/

namespace ExprLang

/-- Entries as a map shows them. -/
def inspectEntries (entries : List String) : String :=
  "\x7b" ++ ", ".intercalate entries ++ "\x7d"

namespace Value

mutual

/-- The text that shows how a value is built. -/
def inspect : Value → String
  | null => "Null"
  | boolean b => "Boolean(" ++ (if b then "true" else "false") ++ ")"
  | integer n => "Integer(" ++ Integer.text n ++ ")"
  | decimal d => "Decimal(" ++ d.text ++ ")"
  | string s => "String(" ++ quoted s ++ ")"
  | list items => "List([" ++ ", ".intercalate (inspectItems items) ++ "])"
  | map entries => "Map(" ++ inspectEntries (inspectPairs entries) ++ ")"

/-- The texts of the items of a list. -/
def inspectItems : List Value → List String
  | [] => []
  | v :: vs => v.inspect :: inspectItems vs

/-- The texts of the entries of a map. -/
def inspectPairs : List (String × Value) → List String
  | [] => []
  | (k, v) :: rest => (quoted k ++ ": " ++ v.inspect) :: inspectPairs rest

end

end Value

/-- The text that shows the bindings of a context, and of its registry only whether there is one. -/
def Context.inspect (c : Context) : String :=
  "BindingContext \x7b bindings: " ++ inspectEntries (Value.inspectPairs c.bindings) ++
    ", has_registry: " ++ (if c.registry.isSome then "true" else "false") ++ " \x7d"

end ExprLang
