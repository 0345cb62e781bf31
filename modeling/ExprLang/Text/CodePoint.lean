/-!
# Code points

Characters by their numbers: the character with a number, and membership in a table of ranges.

## Main definitions

* `charOf?` — the character with a code point.
* `inRanges` — whether a table of ranges holds a code point.
-/

namespace ExprLang

/-- The character with a code point, if there is one; the surrogates have none. -/
def charOf? (n : Nat) : Option Char := if h : n.isValidChar then some (Char.ofNatAux n h) else none

/-- Whether a code point lies in one of the ranges, both ends included. -/
def inRanges (ranges : List (Nat × Nat)) (n : Nat) : Bool :=
  ranges.any fun r => r.1 ≤ n && n ≤ r.2

end ExprLang
