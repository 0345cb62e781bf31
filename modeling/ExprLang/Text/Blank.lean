/-!
# Blank characters

The blanks of the language are the characters with the Unicode property `White_Space`.  They
separate tokens, they are what `trim` takes off the ends of a text, and a text of blanks alone
counts as no expression at all.

## Main definitions

* `isBlank` — the property itself.
* `trimList`, `trim` — a text without the blanks at its two ends.
* `isBlankText` — whether a text holds blanks only.

## References

The reference's `skip_whitespace`, and the trimming in `resolve_or_default`, `from_value` and
`trim()`.
-/

namespace ExprLang

/-- The characters with the Unicode property `White_Space`. -/
def isBlank (c : Char) : Bool :=
  let n := c.toNat
  (0x9 ≤ n && n ≤ 0xD) || n == 0x20 || n == 0x85 || n == 0xA0 || n == 0x1680 ||
    (0x2000 ≤ n && n ≤ 0x200A) || n == 0x2028 || n == 0x2029 || n == 0x202F || n == 0x205F ||
    n == 0x3000

/-- The characters left when the blanks at both ends are taken off. -/
def trimList (cs : List Char) : List Char :=
  ((cs.dropWhile isBlank).reverse.dropWhile isBlank).reverse

/-- A text without the blanks at its two ends. -/
def trim (s : String) : String := String.ofList (trimList s.toList)

/-- Whether a text holds nothing but blanks. -/
def isBlankText (s : String) : Bool := s.toList.all isBlank

@[simp] theorem trimList_nil : trimList [] = [] := rfl

end ExprLang
