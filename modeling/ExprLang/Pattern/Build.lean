import ExprLang.Pattern
import ExprLang.Text.Encoding

/-!
# Building patterns

Patterns are put together in a reduced form: characters that stand next to each other are one
literal, a sequence has no sequence and an alternative no alternative at its front, a choice between
single characters is a set, and what all alternatives begin with stands once before them.

## Main definitions

* `Pattern.minWidth`, `Pattern.maxWidth` — how long a match can be.
* `Pattern.leadsWith`, `Pattern.trailsWith` — the anchors that every match obeys at its ends.
* `Pattern.ofSet`, `concat`, `alternate`, `times` — the reduced forms.

## References

`SPEC_FULL.md`, 10.1, on `matches`; the expressions that the reference's `full_match_regex`
compiles.
-/

namespace ExprLang
namespace Pattern

/-! ### The width of a match -/

/-- The fewest characters of a match; none if something in the pattern cannot match at all. -/
def minWidth : Pattern → Option Nat
  | empty => some 0
  | literal cs => some cs.length
  | oneOf s => if s.isEmpty then none else some 1
  | anchor _ => some 0
  | sequence p q => return (← p.minWidth) + (← q.minWidth)
  | either p q => return min (← p.minWidth) (← q.minWidth)
  | repeated p least _ _ => p.minWidth.map (least * ·)
  | group _ p => p.minWidth

/-- The most characters of a match; none if there is no bound, or something in the pattern cannot
match at all. -/
def maxWidth : Pattern → Option Nat
  | empty => some 0
  | literal cs => some cs.length
  | oneOf s => if s.isEmpty then none else some 1
  | anchor _ => some 0
  | sequence p q => return (← p.maxWidth) + (← q.maxWidth)
  | either p q => return max (← p.maxWidth) (← q.maxWidth)
  | repeated p _ most _ => return (← most) * (← p.maxWidth)
  | group _ p => p.maxWidth

/-- Whether a pattern matches empty stretches only. -/
def isZeroWidth (p : Pattern) : Bool := p.maxWidth == some 0

/-- Whether every match begins where an anchor holds. -/
def leadsWith (a : Anchor) : Pattern → Bool
  | empty | literal _ | oneOf _ => false
  | anchor b => a == b
  | sequence p q => p.leadsWith a || (p.isZeroWidth && q.leadsWith a)
  | either p q => p.leadsWith a && q.leadsWith a
  | repeated p least _ _ => 0 < least && p.leadsWith a
  | group _ p => p.leadsWith a

/-- Whether every match ends where an anchor holds. -/
def trailsWith (a : Anchor) : Pattern → Bool
  | empty | literal _ | oneOf _ => false
  | anchor b => a == b
  | sequence p q => q.trailsWith a || (q.isZeroWidth && p.trailsWith a)
  | either p q => p.trailsWith a && q.trailsWith a
  | repeated p least _ _ => 0 < least && p.trailsWith a
  | group _ p => p.trailsWith a

/-! ### Sets and sequences -/

/-- A set as a pattern; a single character stands for itself. -/
def ofSet (s : CharSet) : Pattern :=
  match s.withoutSurrogates with
  | [(a, b)] => if a = b then literal ((charOf? a).toList) else oneOf [(a, b)]
  | s => oneOf s

/-- The parts of a sequence, or the pattern itself. -/
def parts : Pattern → List Pattern
  | sequence p q => p :: q.parts
  | p => [p]

/-- Puts a part before others that are in sequence. -/
def prepend : Pattern → List Pattern → List Pattern
  | empty, ps => ps
  | literal cs, literal ds :: ps => literal (cs ++ ds) :: ps
  | p, ps => p :: ps

/-- Patterns one after the other. -/
def chain : List Pattern → Pattern
  | [] => empty
  | [p] => p
  | p :: ps => sequence p (chain ps)

/-- The reduced form of patterns one after the other. -/
def concat (ps : List Pattern) : Pattern := chain ((ps.flatMap parts).foldr prepend [])

/-! ### Alternatives -/

/-- The alternatives of a pattern, or the pattern itself. -/
def branches : Pattern → List Pattern
  | either p q => p :: q.branches
  | p => [p]

/-- Patterns one of which is to match. -/
def choice : List Pattern → Pattern
  | [] => oneOf []
  | [p] => p
  | p :: ps => either p (choice ps)

/-- The range of a literal that is a single character. -/
def singleChar? : Pattern → Option (Nat × Nat)
  | literal [c] => some (c.toNat, c.toNat)
  | _ => none

def set? : Pattern → Option CharSet
  | oneOf s => some s
  | _ => none

/-- What two lists begin with alike. -/
def commonPrefix : List Pattern → List Pattern → List Pattern
  | p :: ps, q :: qs => if p = q then p :: commonPrefix ps qs else []
  | _, _ => []

/-- The parts that all of several sequences begin with.  A pattern that is no sequence has nothing in
common with others. -/
def sharedPrefix : List Pattern → List Pattern
  | [] => []
  | p :: ps =>
    let partsOf : Pattern → List Pattern
      | sequence p q => p :: q.parts
      | _ => []
    ps.foldl (fun acc q => commonPrefix acc (partsOf q)) (partsOf p)

/-- The number of parts of a pattern, however deep. -/
def size : Pattern → Nat
  | empty | literal _ | oneOf _ | anchor _ => 1
  | sequence p q | either p q => 1 + p.size + q.size
  | repeated p _ _ _ | group _ p => 1 + p.size

/-- The reduced form of alternatives that hold no alternatives themselves.  Behind what they begin
with alike there are alternatives again, but of a smaller size. -/
def alternateFlat : (fuel : Nat) → List Pattern → Pattern
  | 0, ps => choice ps
  | fuel + 1, ps =>
    match ps with
    | [] | [_] => choice ps
    | _ =>
      match ps.mapM singleChar?, ps.mapM set? with
      | some rs, _ => ofSet (CharSet.ofRanges rs)
      | none, some sets => ofSet (CharSet.unionAll sets)
      | none, none =>
        match sharedPrefix ps with
        | [] => choice ps
        | front =>
          let rests := ps.map fun p => concat (p.parts.drop front.length)
          concat (front ++ [alternateFlat fuel (rests.flatMap branches)])

/-- The reduced form of alternatives. -/
def alternate (ps : List Pattern) : Pattern :=
  let ps := ps.flatMap branches
  alternateFlat (ps.foldl (fun n p => n + p.size) 1) ps

/-! ### Repetition -/

/-- The reduced form of a repetition.  What takes no room is taken once at most. -/
def times (p : Pattern) (least : Nat) (most : Option Nat) (lazy : Bool) : Pattern :=
  let (least, most) :=
    if p.isZeroWidth then (min least 1, some (min (most.getD 1) 1)) else (least, most)
  if most = some 0 then empty
  else if least = 1 ∧ most = some 1 then p
  else repeated p least most lazy

end Pattern
end ExprLang
