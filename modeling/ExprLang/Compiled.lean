import ExprLang.Expr.Parser

/-!
# Compiled expressions

An expression that has been read, together with the text it was read from.

## Main definitions

* `Compiled`, `Compiled.ofText` — the type, and reading a text.
* `Compiled.references` — the names the expression depends on.

## References

`SPEC_FULL.md`, 3; the reference's `CompiledExpression`.
-/

namespace ExprLang

/-- A text and the expression it stands for. -/
structure Compiled where
  /-- The text, to the last blank as it was given. -/
  source : String
  tree : Expr
  deriving DecidableEq, Repr

namespace Compiled

/-- Reads a text. -/
def ofText (source : String) : Except ParseError Compiled := (parse source).map fun tree => ⟨source, tree⟩

/-- The names that the expression reads from its context, each once, in the order of the text. -/
def references (c : Compiled) : List Reference := c.tree.references

section

variable {source : String} {c : Compiled}

theorem exists_parse_of_ofText (h : ofText source = .ok c) :
    ∃ tree, parse source = .ok tree ∧ c = ⟨source, tree⟩ := by
  unfold ofText at h
  cases hp : parse source with
  | error e => simp [hp, Except.map] at h
  | ok tree =>
    rw [hp] at h
    cases h
    exact ⟨tree, rfl, rfl⟩

theorem source_of_ofText (h : ofText source = .ok c) : c.source = source := by
  obtain ⟨tree, -, rfl⟩ := exists_parse_of_ofText h
  rfl

theorem parse_of_ofText (h : ofText source = .ok c) : parse source = .ok c.tree := by
  obtain ⟨tree, hparse, rfl⟩ := exists_parse_of_ofText h
  exact hparse

theorem ofText_eq_error_iff {e : ParseError} : ofText source = .error e ↔ parse source = .error e := by
  unfold ofText
  cases parse source <;> simp [Except.map]

end

end Compiled
end ExprLang
