import ExprLang.Number.Power

/-!
# Integers

The integers of the language are the signed 64-bit ones.  Their arithmetic is that of the whole
numbers, with quotients cut toward zero, and an operation whose exact result does not fit has no
result at all; nothing ever wraps around.

## Main definitions

* `Integer.ofInt?` — the integer of a whole number, if it has one.
* `Integer.add?`, `sub?`, `mul?`, `div?`, `rem?`, `neg?` — the arithmetic.
* `Integer.text`, `Integer.read?` — writing and reading decimal digits.
* `readInt?` — an optional sign and digits, of any size.

## References

`SPEC_FULL.md`, 10.1; the reference's `integer_arithmetic`, and the integers that `read_number` and
`from_value` read.
-/

namespace ExprLang

open scoped CorePower

/-! ### Decimal digits -/

/-- The number that a non-empty run of the digits `0` to `9` stands for. -/
def readNat? (cs : List Char) : Option Nat :=
  if !cs.isEmpty && cs.all Char.isDigit then some (Nat.ofDigitChars 10 cs 0) else none

/-- The number written as an optional sign and at least one digit. -/
def readInt? : List Char → Option Int
  | '-' :: cs => (readNat? cs).map fun n => -(n : Int)
  | '+' :: cs => (readNat? cs).map fun n => (n : Int)
  | cs => (readNat? cs).map fun n => (n : Int)

/-- The decimal digits of a whole number, after a minus sign if it is negative. -/
def intText (n : Int) : String :=
  if n < 0 then String.ofList ('-' :: Nat.toDigits 10 n.natAbs)
  else String.ofList (Nat.toDigits 10 n.natAbs)

/-! ### The 64-bit range -/

namespace Integer

/-- The 64-bit integer equal to a whole number, if there is one. -/
def ofInt? (n : Int) : Option Int64 :=
  if -2 ^ (63 : Nat) ≤ n ∧ n < 2 ^ (63 : Nat) then some (Int64.ofInt n) else none

/-- A whole number has an integer exactly if it lies in the range, and then it is the same number. -/
theorem ofInt?_eq_some_iff {n : Int} {i : Int64} : ofInt? n = some i ↔ i.toInt = n := by
  unfold ofInt?
  split
  · rename_i h
    rw [Option.some.injEq]
    constructor
    · rintro rfl
      exact Int64.toInt_ofInt_of_le h.1 h.2
    · rintro rfl
      exact Int64.ofInt_toInt i
  · rename_i h
    constructor
    · intro hn
      exact absurd hn (by simp)
    · rintro rfl
      exact absurd ⟨Int64.le_toInt i, Int64.toInt_lt i⟩ h

def add? (a b : Int64) : Option Int64 := ofInt? (a.toInt + b.toInt)

def sub? (a b : Int64) : Option Int64 := ofInt? (a.toInt - b.toInt)

def mul? (a b : Int64) : Option Int64 := ofInt? (a.toInt * b.toInt)

def neg? (a : Int64) : Option Int64 := ofInt? (-a.toInt)

/-- The quotient cut toward zero; there is none by zero, and none where it leaves the range. -/
def div? (a b : Int64) : Option Int64 :=
  if b = 0 then none else ofInt? (a.toInt.tdiv b.toInt)

/-- The remainder belonging to `div?`, with the sign of `a`; it exists where the quotient does. -/
def rem? (a b : Int64) : Option Int64 :=
  (div? a b).bind fun _ => ofInt? (a.toInt.tmod b.toInt)

/-- The digits of an integer. -/
def text (a : Int64) : String := intText a.toInt

/-- The integer written as an optional sign and digits, if it lies in the range. -/
def read? (cs : List Char) : Option Int64 := (readInt? cs).bind ofInt?

end Integer
end ExprLang
