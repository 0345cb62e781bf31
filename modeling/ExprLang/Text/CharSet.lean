import ExprLang.Text.CodePoint
import ExprLang.Text.FoldTable

/-!
# Sets of characters

A set of characters is kept as the ranges of its code points, in ascending order and with gaps
between them, so that every operation is a walk along ranges.

## Main definitions

* `CharSet` and its operations: union, complement, intersection, differences.
* `CharSet.foldCase` — a set with all that simple case folding makes one with its members.
* `CharSet.ofText` — a set written as hexadecimal ranges.
-/

namespace ExprLang

/-- Ranges of code points, both ends included, ascending and with gaps between them. -/
abbrev CharSet := List (Nat × Nat)

namespace CharSet

/-- The largest code point. -/
def lastCodePoint : Nat := 0x10FFFF

def contains (s : CharSet) (c : Char) : Bool := inRanges s c.toNat

/-- The set with one more range, joined to those it touches. -/
def insertRange (lo hi : Nat) : CharSet → CharSet
  | [] => [(lo, hi)]
  | (a, b) :: rest =>
    if hi + 1 < a then (lo, hi) :: (a, b) :: rest
    else if b + 1 < lo then (a, b) :: insertRange lo hi rest
    else insertRange (min lo a) (max hi b) rest

/-- The set of the given ranges, which may be in any order. -/
def ofRanges (ranges : List (Nat × Nat)) : CharSet :=
  ranges.foldr (fun r s => insertRange r.1 r.2 s) []

def single (c : Char) : CharSet := [(c.toNat, c.toNat)]

def union (s t : CharSet) : CharSet := s.foldr (fun r acc => insertRange r.1 r.2 acc) t

def unionAll (sets : List CharSet) : CharSet := sets.foldr union []

/-- What lies from `n` on and in none of the ranges. -/
def gapsFrom (n : Nat) : CharSet → CharSet
  | [] => if n ≤ lastCodePoint then [(n, lastCodePoint)] else []
  | (a, b) :: rest => if n < a then (n, a - 1) :: gapsFrom (b + 1) rest else gapsFrom (b + 1) rest

def complement (s : CharSet) : CharSet := gapsFrom 0 s

def intersection (s t : CharSet) : CharSet := complement (union (complement s) (complement t))

def difference (s t : CharSet) : CharSet := intersection s (complement t)

def symmetricDifference (s t : CharSet) : CharSet := difference (union s t) (intersection s t)

/-- Whether the set holds ASCII characters only. -/
def isAscii (s : CharSet) : Bool := s.all fun r => r.2 < 0x80

/-! ### Case folding -/

/-- The pairs of a run that a set has a half of, both halves of each. -/
def foldRun (s : CharSet) (r : CaseTable.Run) : List (Nat × Nat) :=
  let steps := (r.last - r.first) / r.step + 1
  (List.range steps).flatMap fun i =>
    let a := r.first + i * r.step
    let b := r.target + i * r.step
    if inRanges s a || inRanges s b then [(a, a), (b, b)] else []

/-- The set together with everything that simple case folding makes one with a member. -/
def foldCase (s : CharSet) : CharSet :=
  let fromGroups := foldGroups.filter fun g => g.any (inRanges s)
  let added := foldRuns.flatMap (foldRun s) ++ fromGroups.flatMap fun g => g.map fun n => (n, n)
  union (ofRanges added) s

/-- The set together with the other case of its ASCII letters. -/
def foldAsciiCase (s : CharSet) : CharSet :=
  let letters := (List.range 26).flatMap fun i =>
    let a := 'A'.toNat + i
    let b := 'a'.toNat + i
    if inRanges s a || inRanges s b then [(a, a), (b, b)] else []
  union (ofRanges letters) s

/-! ### Sets in tables -/

/-- A walk along the text of a table row: the ranges read, the start of the range that is open, and
the number being read. -/
structure Reading where
  ranges : List (Nat × Nat)
  low : Option Nat
  number : Nat

/-- Ends a range. -/
def Reading.close (r : Reading) : Reading :=
  ⟨(r.low.getD r.number, r.number) :: r.ranges, none, 0⟩

/-- Reads one character: a hexadecimal digit, the hyphen inside a range, or a gap between ranges. -/
def Reading.step (r : Reading) (c : Char) : Reading :=
  if c.isDigit then { r with number := 16 * r.number + (c.toNat - '0'.toNat) }
  else if c.isUpper then { r with number := 16 * r.number + (c.toNat - 'A'.toNat + 10) }
  else if c == '-' then { r with low := some r.number, number := 0 }
  else r.close

/-- The set written as hexadecimal ranges with blanks between them. -/
def ofText (text : String) : CharSet :=
  (text.toList.foldl Reading.step ⟨[], none, 0⟩).close.ranges.reverse

end CharSet
end ExprLang
