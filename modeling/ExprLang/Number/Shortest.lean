import ExprLang.Number.Double

/-!
# The shortest digits of a double

Every finite double is the nearest one to all the reals of an interval around it.  Its shortest
digits are those of the number in that interval with the fewest decimal digits, and of several the
nearest to the double.

On the grid of the multiples of `10 ^ k` an interval that holds any point holds one of the two
neighbours of the double itself, so it is enough to try these, from coarse grids to fine ones.

## Main definitions

* `Double.shortest` — the digits, as a whole number and a power of ten.
* `Double.text` — the written form of a finite double.

## References

`SPEC_FULL.md`, 10.2; how the numbers of the reference's `to_json` are written.
-/

namespace ExprLang

open scoped CorePower
namespace Double

/-- A point of a decimal grid: `digits * 10 ^ exponent`. -/
structure Scientific where
  digits : Nat
  exponent : Int
  deriving Repr, DecidableEq

/-- The magnitudes that round to a double, all over a denominator `4 * den`. -/
structure Interval where
  value : Nat
  low : Nat
  high : Nat
  den : Nat
  /-- Whether the ends belong to the interval. -/
  closed : Bool

/-- The interval of a positive double.  It reaches halfway to the neighbours; the lower neighbour
of a power of two is half as far away as the upper one. -/
def interval (x : Float) : Interval :=
  let m := significand x
  let up := 2 ^ (exponent x).toNat
  let below := if fractionBits x = 0 ∧ 1 < exponentBits x then 1 else 2
  { value := 4 * m * up, low := (4 * m - below) * up, high := (4 * m + 2) * up
    den := 4 * 2 ^ (-exponent x).toNat, closed := m % 2 == 0 }

/-- Whether `n / d` lies in the interval. -/
def Interval.holds (i : Interval) (n d : Nat) : Bool :=
  let l := i.low * d
  let v := n * i.den
  let h := i.high * d
  if i.closed then l ≤ v && v ≤ h else l < v && v < h

/-- The point of the grid of `10 ^ k` that lies in the interval nearest to its value, if one does;
of two equally near ones the even one. -/
def Interval.onGrid (i : Interval) (k : Int) : Option Nat :=
  let unit := 10 ^ k.toNat
  let parts := 10 ^ (-k).toNat
  let n := i.value * parts
  let d := i.den * unit
  let nearest := roundHalfEven n d
  let other := if nearest = n / d then nearest + 1 else n / d
  if nearest ≠ 0 && i.holds (nearest * unit) parts then some nearest
  else if other ≠ 0 && i.holds (other * unit) parts then some other
  else none

/-- The shortest digits of a positive double.  The first grid is coarser than the double is large,
and seventeen digits always suffice. -/
def shortest (x : Float) : Scientific :=
  let i := interval x
  let top := Int.fdiv (((significand x).log2 + exponent x + 1) * 30103) 100000 + 1
  ((List.range 21).findSome? fun (j : Nat) =>
    let k := top - (j : Int)
    (i.onGrid k).map fun n => (⟨n, k⟩ : Scientific)).getD ⟨0, 0⟩

/-! ### The written form -/

/-- The digits of a positive number, positional from `0.00001` up to sixteen digits before the
point, and with an exponent outside of that. -/
def Scientific.chars (s : Scientific) : List Char :=
  let ds := Nat.toDigits 10 s.digits
  let point : Int := ds.length + s.exponent
  if 0 ≤ s.exponent && point ≤ 16 then ds ++ List.replicate s.exponent.toNat '0' ++ ['.', '0']
  else if 0 < point && point ≤ 16 then ds.take point.toNat ++ '.' :: ds.drop point.toNat
  else if -5 < point && point ≤ 0 then
    '0' :: '.' :: List.replicate (-point).toNat '0' ++ ds
  else
    let mantissa := match ds with
      | d :: r :: rs => d :: '.' :: r :: rs
      | ds => ds
    let e := point - 1
    mantissa ++ 'e' :: (if e < 0 then '-' else '+') :: Nat.toDigits 10 e.natAbs

/-- The characters of a finite double. -/
def chars (x : Float) : List Char :=
  let body := if isZero x then ['0', '.', '0'] else (shortest x).chars
  if isNegative x then '-' :: body else body

/-- The written form of a finite double: it reads back as the same double, and no shorter run of
digits does. -/
def text (x : Float) : String := String.ofList (chars x)

end Double
end ExprLang
