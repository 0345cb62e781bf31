import ExprLang.Text.CodePoint
import ExprLang.Text.NameTable

/-!
# Characters of names

A name starts with `_` or a character of `XID_Start`, and goes on with `_` and characters of
`XID_Continue`.

## Main definitions

* `isNameStart`, `isNameChar` — the two classes.

## References

`SPEC_FULL.md`, 10.1, on identifiers; the reference's `is_identifier_start` and
`is_identifier_continue`.
-/

namespace ExprLang

/-- The characters a name can start with. -/
def isNameStart (c : Char) : Bool :=
  if c.toNat < 0x80 then c.isAlpha || c == '_'
  else inRanges NameTable.startRanges c.toNat

/-- The characters a name can go on with. -/
def isNameChar (c : Char) : Bool :=
  if c.toNat < 0x80 then c.isAlpha || c.isDigit || c == '_'
  else inRanges NameTable.startRanges c.toNat || inRanges NameTable.extraRanges c.toNat

/-- A character that can start a name can also stand inside one. -/
theorem isNameChar_of_isNameStart {c : Char} (h : isNameStart c) : isNameChar c := by
  by_cases hc : c.toNat < 0x80
  · simp only [isNameStart, hc, if_true, Bool.or_eq_true] at h
    simp only [isNameChar, hc, if_true, Bool.or_eq_true]
    exact h.imp Or.inl id
  · simp only [isNameStart, hc, if_false] at h
    simp only [isNameChar, hc, if_false, Bool.or_eq_true]
    exact Or.inl h

end ExprLang
