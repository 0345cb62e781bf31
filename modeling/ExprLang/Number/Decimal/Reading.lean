import ExprLang.Number.Decimal

/-!
# Reading decimals

A decimal is written with an optional sign and digits around at most one point; underscores may
stand anywhere after the first digit.  Digits that the type has no room for are rounded away,
a half upwards, but only behind the point: a whole part that does not fit is no decimal.  An
underscore right where the rounding begins is passed over if the number is long, and counts as a
zero if it is short.  A text that cannot be read so may still be a base and an exponent around the
letter `e`.

## Main definitions

* `Decimal.readPlain?` — the positional form.
* `Decimal.readScientific?` — the form with an exponent.
* `Decimal.read?` — either, the positional form first.

## References

`SPEC_FULL.md`, 10.1 and 10.2; how the reference's `parse_primary` and `from_value` read decimals.
-/

namespace ExprLang

open scoped CorePower
namespace Decimal

/-- What was read of a positional number so far. -/
structure Reading where
  negative : Bool
  /-- Whether the point has been passed. -/
  afterPoint : Bool
  /-- Whether a digit has been read. -/
  seen : Bool
  coefficient : Nat
  scale : Nat

/-- Ends a reading whose next digit `d` has no room: it rounds the coefficient, a half upwards,
and the rest counts for nothing.  A coefficient that grows too large by it gives up a place. -/
def Reading.roundOff (st : Reading) (d : Nat) (rest : List Char) : Option Decimal :=
  if rest.all fun c => c.isDigit || c == '_' then
    let up := if 5 ≤ d then st.coefficient + 1 else st.coefficient
    if up < coefficientBound then ofParts? st.negative up st.scale
    else if st.scale = 0 then none
    else ofParts? st.negative ((up + 4) / 10) (st.scale - 1)
  else none

/-- Whether the coefficient had outgrown a single word of 64 bits, with a margin for further digits,
before its last digit was read. -/
def Reading.isLong (st : Reading) : Bool :=
  (2 ^ (64 : Nat) - 1) / 10 - 255 ≤ st.coefficient / 10

/-- Goes on with a reading to the end of the characters. -/
def Reading.finish (st : Reading) : List Char → Option Decimal
  | [] => if st.seen then ofParts? st.negative st.coefficient st.scale else none
  | c :: rest =>
    if c.isDigit then
      let d := c.toNat - '0'.toNat
      let next := st.coefficient * 10 + d
      if st.afterPoint then
        if maxScale ≤ st.scale || coefficientBound ≤ next then st.roundOff d rest
        else finish { st with seen := true, coefficient := next, scale := st.scale + 1 } rest
      else if coefficientBound ≤ next then none
      else finish { st with seen := true, coefficient := next } rest
    else if c == '.' && !st.afterPoint then finish { st with afterPoint := true } rest
    else if c == '_' && st.seen then
      if st.afterPoint && maxScale ≤ st.scale && !st.isLong then st.roundOff 0 rest
      else finish st rest
    else none

/-- The decimal in positional form: a sign, digits, and at most one point. -/
def readPlain? : List Char → Option Decimal
  | '-' :: cs => Reading.finish ⟨true, false, false, 0, 0⟩ cs
  | '+' :: cs => Reading.finish ⟨false, false, false, 0, 0⟩ cs
  | cs => Reading.finish ⟨false, false, false, 0, 0⟩ cs

/-! ### Exponents -/

/-- An unsigned exponent: digits with at most a plus sign before them. -/
def readExponent? : List Char → Option Nat
  | '+' :: cs => readNat? cs
  | cs => readNat? cs

/-- The decimal divided by ten to `e`.  The scale grows by `e`; places beyond the largest scale are
rounded away, a half upwards, and the sign stays. -/
def lower? (d : Decimal) (e : Nat) : Option Decimal :=
  if maxScale < e then none
  else if d.scale + e ≤ maxScale then ofParts? d.negative d.coefficient (d.scale + e)
  else
    let drop := 10 ^ (d.scale + e - maxScale)
    let lowered := ofParts? d.negative ((d.coefficient + drop / 2) / drop) maxScale
    lowered.map fun r => r.withSign d.negative

/-- The decimal multiplied by ten to `e`.  The scale shrinks by `e`; beyond it the number becomes
a whole one. -/
def raise? (d : Decimal) (e : Nat) : Option Decimal :=
  if e ≤ d.scale then ofParts? d.negative d.coefficient (d.scale - e)
  else if maxScale < e then none
  else ofParts? d.negative (d.coefficient * 10 ^ (e - d.scale)) 0

/-- The decimal written as a positional base, the letter `e` and an exponent. -/
def readScientific? (cs : List Char) : Option Decimal :=
  let isMark := fun c : Char => c == 'e' || c == 'E'
  match cs.dropWhile (fun c => !isMark c) with
  | [] => none
  | _ :: e =>
    (readPlain? (cs.takeWhile (fun c => !isMark c))).bind fun base =>
      match e with
      | '-' :: ds => (readExponent? ds).bind base.lower?
      | ds => (readExponent? ds).bind base.raise?

/-- The decimal written in either form. -/
def read? (cs : List Char) : Option Decimal :=
  match readPlain? cs with
  | some d => some d
  | none => readScientific? cs

end Decimal
end ExprLang
