import ExprLang.Number.Decimal.Arithmetic

/-!
# Doubles

The 64-bit floating point numbers that expressions are handed to and from.  A finite double is a
sign and `m * 2 ^ q` for a whole `m`; all conversions here go through that form in exact
arithmetic and round once.

## Main definitions

* `Double.isNegative`, `isFinite`, `significand`, `exponent` — the parts of a double.
* `Double.ofRatio` — the double nearest to a fraction.
* `Double.read?` — reading one from text.
* `Double.roundWhole` — the nearest whole number, a half away from zero.

## References

`SPEC_FULL.md`, 10.2; the doubles that the reference's `from_value` and `to_json` deal in.
-/

namespace ExprLang

open scoped CorePower
namespace Double

/-! ### The parts of a double -/

/-- The eleven bits of the biased exponent. -/
def exponentBits (x : Float) : Nat := x.toBits.toNat / 2 ^ (52 : Nat) % 2 ^ (11 : Nat)

/-- The 52 bits behind the leading one. -/
def fractionBits (x : Float) : Nat := x.toBits.toNat % 2 ^ (52 : Nat)

def isNegative (x : Float) : Bool := x.toBits.toNat / 2 ^ (63 : Nat) == 1

def isFinite (x : Float) : Bool := exponentBits x != 2047

def isZero (x : Float) : Bool := exponentBits x == 0 && fractionBits x == 0

/-- The whole number `m` of a finite double's magnitude `m * 2 ^ q`. -/
def significand (x : Float) : Nat :=
  if exponentBits x = 0 then fractionBits x else fractionBits x + 2 ^ (52 : Nat)

/-- The exponent `q` of a finite double's magnitude `m * 2 ^ q`. -/
def exponent (x : Float) : Int := (max (exponentBits x) 1 : Nat) - 1075

/-! ### Rounding to a double -/

/-- The bits of the sign. -/
def signBit (negative : Bool) : Nat := if negative then 2 ^ (63 : Nat) else 0

/-- An infinite double. -/
def infinity (negative : Bool) : Float :=
  Float.ofBits (.ofNat (signBit negative + 2047 * 2 ^ (52 : Nat)))

/-- The double that is no number. -/
def notANumber : Float := Float.ofBits (.ofNat (4095 * 2 ^ (51 : Nat)))

/-- The double nearest to `num / den`, of two equally near ones the one with the even significand;
infinity beyond the largest.

The significand needs 53 bits, or fewer at the least exponent -1074.  Since
`2 ^ (k - 1) < num / den < 2 ^ (k + 1)` for `k = log2 num - log2 den`, one comparison with `2 ^ k`
finds the exponent. -/
def ofRatio (negative : Bool) (num den : Nat) : Float :=
  if num = 0 then Float.ofBits (.ofNat (signBit negative))
  else
    let k : Int := (num.log2 : Int) - den.log2
    let reaches := den * 2 ^ k.toNat ≤ num * 2 ^ (-k).toNat
    let q := max (if reaches then k - 52 else k - 53) (-1074)
    let m := roundHalfEven (num * 2 ^ (-q).toNat) (den * 2 ^ q.toNat)
    let magnitude := (q + 1074).toNat * 2 ^ (52 : Nat) + m
    if 2047 * 2 ^ (52 : Nat) ≤ magnitude then infinity negative
    else Float.ofBits (.ofNat (signBit negative + magnitude))

/-- The double nearest to a whole number. -/
def ofInt (n : Int) : Float := ofRatio (n < 0) n.natAbs 1

def ofNat (n : Nat) : Float := ofRatio false n 1

/-- The nearest whole number to a finite double that is not negative, a half away from zero. -/
def roundWhole (x : Float) : Float :=
  let q := exponent x
  if 0 ≤ q then x
  else
    let unit := 2 ^ (-q).toNat
    ofNat ((2 * significand x + unit) / (2 * unit))

/-- The power of a double found by squaring, each product rounded. -/
def powBySquaring (base : Float) (n : Nat) : Float := go 64 1.0 base n
where
  /-- Goes on with the bits of `n`, lowest first; `square` is the power of `base` for that bit. -/
  go : Nat → Float → Float → Nat → Float
    | 0, acc, _, _ => acc
    | bits + 1, acc, square, n =>
      let acc := if n % 2 = 1 then acc * square else acc
      if n / 2 = 0 then acc else go bits acc (square * square) (n / 2)

/-! ### Reading -/

/-- The double nearest to `m * 10 ^ e`. -/
def ofScientific (negative : Bool) (m : Nat) (e : Int) : Float :=
  if m = 0 then ofRatio negative 0 1
  else
    -- the value lies from `10 ^ (top - 1)` up to `10 ^ top`
    let top := ((Nat.toDigits 10 m).length : Int) + e
    if 310 < top then infinity negative
    else if top < -330 then ofRatio negative 0 1
    else ofRatio negative (m * 10 ^ e.toNat) (10 ^ (-e).toNat)

/-- The exponent part: nothing, or the letter `e` with an optional sign and digits. -/
def readExponentPart? : List Char → Option Int
  | [] => some 0
  | c :: cs => if c == 'e' || c == 'E' then readInt? cs else none

/-- A double written in digits, with an optional point and an optional exponent. -/
def readDigits? (negative : Bool) (cs : List Char) : Option Float :=
  let whole := cs.takeWhile Char.isDigit
  let (places, rest) := match cs.dropWhile Char.isDigit with
    | '.' :: r => (r.takeWhile Char.isDigit, r.dropWhile Char.isDigit)
    | r => ([], r)
  let ds := whole ++ places
  if ds.isEmpty then none
  else
    (readExponentPart? rest).map fun e =>
      ofScientific negative (Nat.ofDigitChars 10 ds 0) (e - places.length)

/-- A double without its sign: digits, or one of the words for the values that have none. -/
def readUnsigned? (negative : Bool) (cs : List Char) : Option Float :=
  let word := String.ofList (cs.map Char.toLower)
  if word == "inf" || word == "infinity" then some (infinity negative)
  else if word == "nan" then some notANumber
  else readDigits? negative cs

/-- The double written in a text. -/
def read? : List Char → Option Float
  | '-' :: cs => readUnsigned? true cs
  | '+' :: cs => readUnsigned? false cs
  | cs => readUnsigned? false cs

end Double
end ExprLang
