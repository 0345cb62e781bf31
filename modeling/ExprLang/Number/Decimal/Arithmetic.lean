import ExprLang.Number.Decimal

/-!
# Decimal arithmetic

Results are exact where they fit.  Where they do not, decimal places are dropped, as few as
possible, and what is left is rounded to the nearest, a half to the even neighbour; a result that
does not fit without any place has no decimal.  Quotients are developed to the last place there is
room for and lose the zeros at their end.  Remainders by large divisors are found word by word.

## Main definitions

* `roundHalfEven` — division to the nearest whole number.
* `Decimal.fit?` — the decimal nearest to a coefficient and scale of any size.
* `Decimal.add?`, `sub?`, `mul?`, `div?`, `rem?` — the operations.

## References

`SPEC_FULL.md`, 10.1; the operations that the reference's `decimal_arithmetic` and `compare` use.
-/

namespace ExprLang

open scoped CorePower

/-- The whole number nearest to `n / d`; of two equally near ones the even one. -/
def roundHalfEven (n d : Nat) : Nat :=
  let q := n / d
  let r := n % d
  if d < 2 * r || (d == 2 * r && q % 2 == 1) then q + 1 else q

namespace Decimal

/-- The decimal for a coefficient of any size and a scale of any size, after dropping the least
number of places that makes both fit. -/
def fit? (negative : Bool) (coefficient scale : Nat) : Option Decimal :=
  (List.range (scale + 1)).findSome? fun dropped =>
    ofParts? negative (roundHalfEven coefficient (10 ^ dropped)) (scale - dropped)

/-- The sum.  A zero gives back the other operand as it is written. -/
def add? (a b : Decimal) : Option Decimal :=
  if a.isZero then some b
  else if b.isZero then some a
  else
    let scale := max a.scale b.scale
    let sum := a.scaledBy (scale - a.scale) + b.scaledBy (scale - b.scale)
    fit? (sum < 0) sum.natAbs scale

/-- The difference.  Zero less a number is that number with the other sign. -/
def sub? (a b : Decimal) : Option Decimal :=
  if b.isZero then some (if a.isZero then b else a) else add? a b.neg

/-- The product; zero has no places, and neither has a product of two small coefficients that lies
beyond 47 places.  Where nothing but zero is left of a product, it keeps the sign unless both
coefficients are small. -/
def mul? (a b : Decimal) : Option Decimal :=
  let negative := a.negative != b.negative
  let small := a.coefficient < 2 ^ (32 : Nat) && b.coefficient < 2 ^ (32 : Nat)
  if a.isZero || b.isZero then some zero
  else if small && 47 < a.scale + b.scale then some zero
  else
    let product := fit? negative (a.coefficient * b.coefficient) (a.scale + b.scale)
    if small then product else product.map fun d => d.withSign negative

/-! ### Division -/

/-- The most places, up to nine and never past the largest scale, by which a quotient can be moved
up and still fit. -/
def roomFor (quotient : Nat) (scale : Int) : Nat :=
  let most := min 9 ((maxScale : Int) - scale).toNat
  ((List.range (most + 1)).reverse.find? fun p => quotient * 10 ^ p < coefficientBound).getD 0

/-- A quotient that has just outgrown the coefficients, with one place less; `sticky` tells that
something lies behind its last place. -/
def shedPlace? (quotient : Nat) (scale : Int) (sticky : Bool) : Option (Nat × Nat) :=
  if scale < 1 then none
  else
    let q := quotient / 10
    let r := quotient % 10
    let up := 5 < r || (r == 5 && (sticky || q % 2 == 1))
    some (if up then q + 1 else q, (scale - 1).toNat)

/-- Adds one to a quotient in its last place. -/
def roundUp? (quotient : Nat) (scale : Int) : Option (Nat × Nat) :=
  if quotient + 1 < coefficientBound then some (quotient + 1, scale.toNat)
  else shedPlace? (quotient + 1) scale true

/-- Long division.  `quotient` and `remainder` are what dividing to `scale` places has left so far;
each round develops up to nine further places.  The scale grows in every round, from at least -28
to at most 28, which bounds the rounds. -/
def develop (divisor : Nat) :
    (rounds quotient remainder : Nat) → (scale : Int) → Option (Nat × Nat)
  | 0, _, _, _ => none
  | rounds + 1, quotient, remainder, scale =>
    let places :=
      if remainder = 0 then if 0 ≤ scale then none else some (min 9 (-scale).toNat)
      else some (roomFor quotient scale)
    match places with
    | none => some (quotient, scale.toNat)
    | some p =>
      if remainder ≠ 0 ∧ p < 9 ∧ (p : Int) + scale < 0 then none
      else if p = 0 then
        if divisor < 2 * remainder || (divisor == 2 * remainder && quotient % 2 == 1) then
          roundUp? quotient scale
        else some (quotient, scale.toNat)
      else
        let shifted := quotient * 10 ^ p
        let quotient' := shifted + remainder * 10 ^ p / divisor
        let remainder' := remainder * 10 ^ p % divisor
        if coefficientBound ≤ shifted then none
        else if coefficientBound ≤ quotient' then
          shedPlace? quotient' (scale + p) (remainder' != 0)
        else develop divisor rounds quotient' remainder' (scale + p)

/-- Takes `k` zeros off the end if they are there and the scale has them. -/
def stripZeros (k : Nat) (p : Nat × Nat) : Nat × Nat :=
  if k ≤ p.2 && p.1 % 10 ^ k == 0 then (p.1 / 10 ^ k, p.2 - k) else p

/-- Takes off groups of eight zeros as long as the low 32 bits of the coefficient are zero. -/
def stripOctets : Nat → Nat × Nat → Nat × Nat
  | 0, p => p
  | n + 1, p =>
    if p.1 % 2 ^ (32 : Nat) == 0 && 8 ≤ p.2 && p.1 % 10 ^ (8 : Nat) == 0 then
      stripOctets n (p.1 / 10 ^ (8 : Nat), p.2 - 8)
    else p

/-- The zeros that a developed quotient loses at its end: groups of eight under the condition of
`stripOctets`, then at most one group each of four, two and one. -/
def strip (p : Nat × Nat) : Nat × Nat :=
  stripZeros 1 (stripZeros 2 (stripZeros 4 (stripOctets 4 p)))

/-- The quotient; there is none by zero.  If the division of the coefficients leaves no remainder
the result keeps its places, else it is developed and loses the zeros at its end. -/
def div? (a b : Decimal) : Option Decimal :=
  if b.isZero then none
  else if a.isZero then some zero
  else
    let r := a.coefficient % b.coefficient
    let developed :=
      develop b.coefficient 60 (a.coefficient / b.coefficient) r ((a.scale : Int) - b.scale)
    developed.bind fun p =>
      let p := if r = 0 then p else strip p
      ofParts? (a.negative != b.negative) p.1 p.2

/-! ### Remainders -/

/-- Takes the next word of the dividend into a partial remainder by a divisor of three words, the
highest bit of which is set.  A partial remainder whose highest word is that of the divisor loses
it; what comes out at the end is then not the exact remainder. -/
def takeWord (divisor remainder word : Nat) : Nat :=
  let r :=
    if remainder / 2 ^ (64 : Nat) = divisor / 2 ^ (64 : Nat) then remainder % 2 ^ (64 : Nat)
    else remainder
  (r * 2 ^ (32 : Nat) + word) % divisor

/-- The remainder by a divisor of three words.  Both numbers are moved up until the divisor fills its
words; then the seven words that a dividend can have are taken in from the highest on. -/
def remainderByWords (dividend divisor : Nat) : Nat :=
  let unit := 2 ^ (95 - divisor.log2)
  let step := fun i r =>
    takeWord (divisor * unit) r (dividend * unit / 2 ^ (32 * i) % 2 ^ (32 : Nat))
  (List.range 7).foldr step 0 / unit

/-- The remainder, with the sign of `a`; there is none by zero.  It is exact if the divisor has no
more than two words at the common scale. -/
def rem? (a b : Decimal) : Option Decimal :=
  if b.isZero then none
  else
    let scale := max a.scale b.scale
    let m := a.coefficient * 10 ^ (scale - a.scale)
    let n := b.coefficient * 10 ^ (scale - b.scale)
    if a.isZero || m == n then some zero
    else if m < n then some a
    else ofParts? a.negative (if n < 2 ^ (64 : Nat) then m % n else remainderByWords m n) scale

end Decimal
end ExprLang
