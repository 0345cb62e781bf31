import ExprLang.Value

/-!
# Equality and order of values

Two values are equal in the language if they are the same number, written as integer or as decimal,
or the same otherwise; lists are compared item by item, maps entry by entry in any order.  A
stricter relation tells integers from decimals.  Only numbers and strings have an order.

## Main definitions

* `Value.agree` — equality of structures, for any equality of the values without parts.
* `Value.equals` — the equality of the language.
* `Value.identical` — the stricter one.
* `Value.order?` — the order of two numbers or two strings.

## References

`SPEC_FULL.md`, 10.1; the reference's `values_equal` and `compare`.
-/

namespace ExprLang
namespace Value

mutual

/-- Equality of lists and maps by their parts, and of all other values by `scalar`. -/
def agree (scalar : Value → Value → Bool) : Value → Value → Bool
  | list xs, b =>
    match b with
    | list ys => agreeItems scalar xs ys
    | _ => false
  | map xs, b =>
    match b with
    | map ys => xs.length == ys.length && agreeEntries scalar xs ys
    | _ => false
  | a, b => scalar a b

/-- Equality item by item. -/
def agreeItems (scalar : Value → Value → Bool) : List Value → List Value → Bool
  | [], ys => ys.isEmpty
  | x :: xs, ys =>
    match ys with
    | [] => false
    | y :: ys => agree scalar x y && agreeItems scalar xs ys

/-- Whether every entry has its equal among the entries `ys`. -/
def agreeEntries (scalar : Value → Value → Bool) : List (String × Value) → Entries Value → Bool
  | [], _ => true
  | (k, x) :: rest, ys =>
    (match ys.get? k with
      | some y => agree scalar x y
      | none => false) && agreeEntries scalar rest ys

end

/-- Two values without parts of one type that are the same; decimals by their number. -/
def scalarIdentical : Value → Value → Bool
  | null, null => true
  | boolean a, boolean b => a == b
  | integer a, integer b => a == b
  | decimal a, decimal b => a.sameValue b
  | string a, string b => a == b
  | _, _ => false

/-- Two values without parts that are the same, or the same number. -/
def scalarEquals : Value → Value → Bool
  | integer a, decimal b => (Decimal.ofInteger a).sameValue b
  | decimal a, integer b => a.sameValue (.ofInteger b)
  | a, b => scalarIdentical a b

/-- The equality of the language, in which an integer equals the decimals of its value. -/
def equals : Value → Value → Bool := agree scalarEquals

/-- The equality that tells integers from decimals. -/
def identical : Value → Value → Bool := agree scalarIdentical

/-- The order of two numbers or of two strings; strings go by code points. -/
def order? : Value → Value → Option Ordering
  | integer a, integer b => some (compare a.toInt b.toInt)
  | string a, string b => some (compare a b)
  | a, b => do return (← a.asDecimal?).compare (← b.asDecimal?)

end Value
end ExprLang
