import ExprLang.Json.Parser

/-!
# Records in JSON

A record with named fields is written as an object, or as an array of its fields in their order.  In
an object any field may be missing and unknown ones are passed over, but none that is known may
stand twice; an array may leave out fields at its end.

## Main definitions

* `Json.Draft.fields?` — the fields of a record.
* `Json.Draft.boolean?`, `Json.Draft.count?`, `Json.Draft.orNull?` — the types of fields.

## References

`SPEC_FULL.md`, 10.4; how the reference's `load_config` reads a `CacheConfig`.
-/

namespace ExprLang

open scoped CorePower
namespace Json.Draft

/-- The entries whose names are among `names`, if each stands once. -/
def fieldsAmong? (names : List String) : List (List Nat × Draft) → Option (Entries Draft)
  | [] => some []
  | (codes, d) :: rest => do
    let name ← textOfCodes? codes
    let fields ← fieldsAmong? names rest
    if !names.contains name then some fields
    else if Entries.contains fields name then none
    else some ((name, d) :: fields)

/-- The fields of a record that are there. -/
def fields? (names : List String) : Draft → Option (Entries Draft)
  | array items => if items.length ≤ names.length then some (names.zip items) else none
  | object entries => fieldsAmong? names entries
  | _ => none

def boolean? : Draft → Option Bool
  | boolean b => some b
  | _ => none

/-- A number of 64 bits that is whole and not negative. -/
def count? : Draft → Option UInt64
  | number (some (.whole n)) => if 0 ≤ n ∧ n < 2 ^ (64 : Nat) then some (.ofNat n.toNat) else none
  | _ => none

/-- What may be null instead. -/
def orNull? {α : Type} (read : Draft → Option α) : Draft → Option (Option α)
  | null => some none
  | d => (read d).map some

/-- Reads a field, which stands for `default` where it is missing. -/
def field? {α : Type} (fields : Entries Draft) (name : String) (default : α)
    (read : Draft → Option α) : Option α :=
  match fields.get? name with
  | none => some default
  | some d => read d

end Json.Draft
end ExprLang
