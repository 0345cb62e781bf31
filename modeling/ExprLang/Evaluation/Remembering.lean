import ExprLang.Evaluation
import ExprLang.Pattern.Cache

/-!
# Evaluation with remembered patterns

Expressions are evaluated with the patterns that have been read as a state.  All evaluations have one
memory in common: what one of them has read, the later ones find, also if the first has ended with an
error.

## Main definitions

* `Remembering`, `Remembering.answer` — evaluations with a memory, and what they come to.
* `PatternCache.evaluations` — one evaluation after the other.

## References

`SPEC_FULL.md`, 10.1, on `matches`; the reference's `interpret`, with `PATTERN_CACHE` behind it.
-/

namespace ExprLang

/-- An evaluation with the patterns read so far as its state.  They are kept after an error as well. -/
abbrev Remembering := EStateM EvalError PatternCache

/-- The outcome with some patterns remembered, and what is remembered after it. -/
def Remembering.answer {α : Type} (x : Remembering α) (m : PatternCache) : Outcome α × PatternCache :=
  match x m with
  | .ok a m => (.ok a, m)
  | .error e m => (.error e, m)

/-- What needs no patterns. -/
def Outcome.withMemory {α : Type} (x : Outcome α) : Remembering α := fun m =>
  match x with
  | .ok a => .ok a m
  | .error e => .error e m

/-- All that needs the memory is matching. -/
instance : Evaluator Remembering where
  ofOutcome := Outcome.withMemory
  fullMatch? pattern text := fun m =>
    let (found, m) := m.fullMatch? pattern text
    .ok found m

/-- Evaluates expressions one after the other, each in a context of its own. -/
def PatternCache.evaluations (m : PatternCache) :
    List (Context × Expr) → List (Outcome Value) × PatternCache
  | [] => ([], m)
  | (c, e) :: rest =>
    let (x, m) := Remembering.answer (e.evalIn c) m
    let (xs, m) := m.evaluations rest
    (x :: xs, m)

end ExprLang
