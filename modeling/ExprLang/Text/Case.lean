import ExprLang.Text.CodePoint
import ExprLang.Text.CaseTable

/-!
# Upper and lower case

The full case mappings: one character may become several (`ß` becomes `SS`), and a capital sigma at
the end of a word has a small form of its own.

## Main definitions

* `upperCase`, `lowerCase` — a text in one case.

## References

`SPEC_FULL.md`, 10.1; the methods `toUpperCase()` and `toLowerCase()` of the reference's
`call_method`.
-/

namespace ExprLang

/-- The characters that a case mapping makes of one character. -/
def mapCase (runs : List CaseTable.Run) (expansions : List (Nat × List Nat)) (c : Char) :
    List Char :=
  match expansions.lookup c.toNat with
  | some ns => ns.filterMap charOf?
  | none => [((runs.findSome? fun r => r.apply? c.toNat).bind charOf?).getD c]

/-- The upper case of a character. -/
def upperChars (c : Char) : List Char :=
  if c.toNat < 0x80 then [c.toUpper] else mapCase CaseTable.upperRuns CaseTable.upperExpansions c

/-- The lower case of a character that stands alone. -/
def lowerChars (c : Char) : List Char :=
  if c.toNat < 0x80 then [c.toLower] else mapCase CaseTable.lowerRuns CaseTable.lowerExpansions c

/-- A text in upper case. -/
def upperCase (s : String) : String := String.ofList (s.toList.flatMap upperChars)

/-! ### Lower case and the sigma -/

/-- Whether a cased letter comes first, apart from characters that do not matter for case. -/
def startsCased (cs : List Char) : Bool :=
  match cs.dropWhile fun c => inRanges CaseTable.caseIgnorableRanges c.toNat with
  | [] => false
  | c :: _ => inRanges CaseTable.casedRanges c.toNat

/-- The lower case of the characters `cs`, which stand behind those of `before`, nearest first.  A
capital sigma ends a word if a letter stands before it and none behind it. -/
def lowerFrom (before : List Char) : List Char → List Char
  | [] => []
  | c :: cs =>
    let lower :=
      if c = 'Σ' then [if startsCased before && !startsCased cs then 'ς' else 'σ']
      else lowerChars c
    lower ++ lowerFrom (c :: before) cs

/-- A text in lower case. -/
def lowerCase (s : String) : String := String.ofList (lowerFrom [] s.toList)

end ExprLang
