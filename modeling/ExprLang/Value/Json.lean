import ExprLang.Json
import ExprLang.Number.Decimal.Double
import ExprLang.Number.Decimal.Reading
import ExprLang.Value

/-!
# Values and JSON

Values read from documents and written to them.  A JSON number becomes an integer if it is one, and
otherwise the decimal that its digits write; a decimal goes out as a double.

## Main definitions

* `Value.ofJson`, `Value.toJson` — the two directions.
* `Value.ofDouble` — the value of a double.

## References

`SPEC_FULL.md`, 10.2; the reference's `to_json`, and its values made from JSON.
-/

namespace ExprLang
namespace Value

/-- The decimal for a double, or null if it has none. -/
def ofDouble (x : Float) : Value :=
  match Decimal.ofDouble? x with
  | some d => decimal d
  | none => null

/-- The value of a JSON number. -/
def ofJsonNumber (n : Json.Number) : Value :=
  let asInteger := match n with
    | .whole m => Integer.ofInt? m
    | .double _ => none
  match asInteger with
  | some i => integer i
  | none =>
    match Decimal.read? n.text.toList with
    | some d => decimal d
    | none =>
      match n with
      | .whole m => ofDouble (Double.ofInt m)
      | .double x => ofDouble x

mutual

/-- The value of a document. -/
def ofJson : Json → Value
  | .null => null
  | .boolean b => boolean b
  | .number n => ofJsonNumber n
  | .string s => string s
  | .array items => list (ofJsonItems items)
  | .object entries => map (ofJsonEntries entries)

def ofJsonItems : List Json → List Value
  | [] => []
  | j :: js => ofJson j :: ofJsonItems js

def ofJsonEntries : List (String × Json) → List (String × Value)
  | [] => []
  | (k, j) :: rest => (k, ofJson j) :: ofJsonEntries rest

end

mutual

/-- The document of a value. -/
def toJson : Value → Json
  | null => .null
  | boolean b => .boolean b
  | integer n => .number (.whole n.toInt)
  | decimal d =>
    let x := d.toDouble
    if Double.isFinite x then .number (.double x) else .string d.text
  | string s => .string s
  | list items => .array (toJsonItems items)
  | map entries => .object (Entries.sorted (toJsonEntries entries))

def toJsonItems : List Value → List Json
  | [] => []
  | v :: vs => v.toJson :: toJsonItems vs

def toJsonEntries : List (String × Value) → List (String × Json)
  | [] => []
  | (k, v) :: rest => (k, v.toJson) :: toJsonEntries rest

end

end Value
end ExprLang
