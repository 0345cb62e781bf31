import ExprLang.Text.Property

/-!
# Patterns

Regular expressions and the texts they match.  Matching works on whole sets of positions: from the
positions where a pattern may start it finds all positions where it may end, so that no choice
ever has to be taken back.

## Main definitions

* `Pattern`, `Anchor` — the syntax.
* `Pattern.ends` — where a pattern can end, given where it can start.
* `Pattern.occursIn` — whether a pattern matches somewhere in a text.

## References

`SPEC_FULL.md`, 10.1, on `matches`; the expressions that the reference's `full_match_regex`
compiles.
-/

namespace ExprLang

/-- Conditions on a position in a text.  The word anchors exist with words of ASCII characters and
with words of all scripts. -/
inductive Anchor
  | textStart
  | textEnd
  | lineStart
  | lineEnd
  /-- The start of a line that may be ended by a carriage return, with a line feed or without. -/
  | crlfLineStart
  | crlfLineEnd
  | boundary (ascii : Bool)
  | noBoundary (ascii : Bool)
  | wordStart (ascii : Bool)
  | wordEnd (ascii : Bool)
  /-- No word character before. -/
  | wordStartHalf (ascii : Bool)
  /-- No word character behind. -/
  | wordEndHalf (ascii : Bool)
  deriving DecidableEq, Repr

/-- Regular expressions. -/
inductive Pattern
  | empty
  /-- The given characters one after the other. -/
  | literal (cs : List Char)
  | oneOf (s : CharSet)
  | anchor (a : Anchor)
  | sequence (p q : Pattern)
  | either (p q : Pattern)
  /-- At least `least` and at most `most` times, as few times as possible if it is `lazy`. -/
  | repeated (p : Pattern) (least : Nat) (most : Option Nat) (lazy : Bool)
  /-- A group with a number, which no other group of the pattern has. -/
  | group (number : Nat) (p : Pattern)
  deriving DecidableEq, Repr

/-! ### Anchors -/

/-- Whether a character is part of a word. -/
def isWordChar (ascii : Bool) (c : Char) : Bool :=
  if c.toNat < 0x80 then c.isAlphanum || c == '_' else !ascii && CharSet.words.contains c

namespace Anchor

/-- Whether the condition holds between the characters before and behind a position. -/
def holdsBetween (before behind : Option Char) : Anchor → Bool
  | textStart => before.isNone
  | textEnd => behind.isNone
  | lineStart => before.all (· == '\n')
  | lineEnd => behind.all (· == '\n')
  | crlfLineStart => before.all fun c => c == '\n' || (c == '\r' && behind != some '\n')
  | crlfLineEnd => behind.all fun c => c == '\r' || (c == '\n' && before != some '\r')
  | boundary ascii => before.any (isWordChar ascii) != behind.any (isWordChar ascii)
  | noBoundary ascii => before.any (isWordChar ascii) == behind.any (isWordChar ascii)
  | wordStart ascii => !before.any (isWordChar ascii) && behind.any (isWordChar ascii)
  | wordEnd ascii => before.any (isWordChar ascii) && !behind.any (isWordChar ascii)
  | wordStartHalf ascii => !before.any (isWordChar ascii)
  | wordEndHalf ascii => !behind.any (isWordChar ascii)

/-- Whether the condition holds at position `i` of a text. -/
def holds (text : Array Char) (i : Nat) (a : Anchor) : Bool :=
  a.holdsBetween (if i = 0 then none else text[i - 1]?) text[i]?

end Anchor

namespace Pattern

/-! ### Matching -/

/-- The positions of both lists, each once. -/
def unite (s t : List Nat) : List Nat := s ++ t.filter fun i => !s.contains i

/-- Applies a step `n` times. -/
def iterate (step : List Nat → List Nat) : Nat → List Nat → List Nat
  | 0, s => s
  | n + 1, s => if s.isEmpty then [] else iterate step n (step s)

/-- Adds to the positions `seen` all that at most `n` steps reach from `fresh`; a position that has
been seen is not followed again. -/
def reach (step : List Nat → List Nat) : Nat → (seen fresh : List Nat) → List Nat
  | 0, seen, _ => seen
  | n + 1, seen, fresh =>
    let new := (step fresh).filter fun i => !seen.contains i
    if new.isEmpty then seen else reach step n (seen ++ new) new

/-- The positions where a pattern can end if it starts at one of the given positions. -/
def ends (text : Array Char) : Pattern → List Nat → List Nat
  | empty, s => s
  | literal cs, s =>
    cs.foldl (fun s c => (s.filter fun i => text[i]? == some c).map (· + 1)) s
  | oneOf set, s => (s.filter fun i => text[i]?.any set.contains).map (· + 1)
  | anchor a, s => s.filter fun i => a.holds text i
  | sequence p q, s => ends text q (ends text p s)
  | either p q, s => unite (ends text p s) (ends text q s)
  | repeated p least most _, s =>
    let s := iterate (ends text p) least s
    reach (ends text p) ((most.map (· - least)).getD text.size) s s
  | group _ p, s => ends text p s

/-- Whether a pattern matches anywhere in a text. -/
def occursIn (p : Pattern) (text : String) : Bool :=
  let cs := text.toList.toArray
  !(p.ends cs (List.range (cs.size + 1))).isEmpty

end Pattern
end ExprLang
