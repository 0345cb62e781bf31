import ExprLang.Text.AgeTable
import ExprLang.Text.BreakTable
import ExprLang.Text.CategoryTable
import ExprLang.Text.CharSet
import ExprLang.Text.PropertyTable
import ExprLang.Text.ScriptTable

/-!
# Character properties by name

The sets of characters that a pattern can name: general categories, scripts, binary properties, ages
and the ways to break a text.  Names count without regard to case, spaces, hyphens and underscores,
and may start with `is`.

## Main definitions

* `CharSet.named?` — the set of a name alone.
* `CharSet.withValue?` — the set of the characters for which a property has a value.
* `CharSet.digits`, `blanks`, `words` — the classes with a letter of their own.
-/

namespace ExprLang
namespace CharSet

/-- The set of a table row that has the name. -/
def inTable? (table : List (List String × String)) (name : String) : Option CharSet :=
  (table.find? fun row => row.1.contains name).map fun row => ofText row.2

/-- The form of a name in which it is looked up. -/
def canonicalName (name : String) : String :=
  let cs := name.toList
  let isPrefixed := match cs with
    | a :: b :: _ => (a == 'i' || a == 'I') && (b == 's' || b == 'S')
    | _ => false
  let kept := (if isPrefixed then cs.drop 2 else cs).filter fun c =>
    c != ' ' && c != '_' && c != '-' && c.toNat < 0x80
  let canonical := String.ofList (kept.map Char.toLower)
  if isPrefixed && canonical == "c" then "isc" else canonical

/-! ### General categories -/

/-- The general categories made up of others, with the first letters or the list of their parts. -/
def compositeCategories : List (List String × List String) := [
  (["l", "letter"], ["lu", "ll", "lt", "lm", "lo"]),
  (["lc", "casedletter"], ["lu", "ll", "lt"]),
  (["m", "mark", "combiningmark"], ["mn", "mc", "me"]),
  (["n", "number"], ["nd", "nl", "no"]),
  (["p", "punctuation", "punct"], ["pc", "pd", "ps", "pe", "pi", "pf", "po"]),
  (["s", "symbol"], ["sm", "sc", "sk", "so"]),
  (["z", "separator"], ["zs", "zl", "zp"])]

/-- The characters that belong to a category of the table. -/
def assigned : CharSet := unionAll (categoryTable.map fun row => ofText row.2)

/-- The set of a general category or of one of the three names that stand beside them. -/
def category? (name : String) : Option CharSet :=
  if name == "any" then some [(0, lastCodePoint)]
  else if name == "ascii" then some [(0, 0x7F)]
  else if name == "assigned" then some assigned
  else if name == "cn" || name == "unassigned" then some (complement assigned)
  else if name == "c" || name == "other" then
    some (unionAll (complement assigned :: ["cc", "cf", "co"].filterMap (inTable? categoryTable)))
  else
    match compositeCategories.find? fun row => row.1.contains name with
    | some row => some (unionAll (row.2.filterMap (inTable? categoryTable)))
    | none => inTable? categoryTable name

/-! ### Scripts, ages and binary properties -/

/-- The characters that a script is used with. -/
def scriptExtensions? (name : String) : Option CharSet :=
  (scriptTable.find? fun row => row.1.contains name).map fun row =>
    ((row.1.head?.bind (inTable? scriptExtensionTable)).getD (ofText row.2))

/-- The characters that a version of the standard has, be they added by it or by one before it. -/
def age? (version : String) : Option CharSet :=
  let added := fun row : List String × String => row.1.contains version
  (ageTable.find? added).map fun row =>
    unionAll (ofText row.2 :: (ageTable.takeWhile fun row => !added row).map fun row => ofText row.2)

/-- The set of a name alone: a binary property, a general category or a script.  Three categories
have short names that properties without a set share, and come before them. -/
def named? (name : String) : Option CharSet :=
  let name := canonicalName name
  let ofProperty :=
    if name == "cf" || name == "sc" || name == "lc" then none else inTable? propertyTable name
  ofProperty.orElse fun _ => (category? name).orElse fun _ => inTable? scriptTable name

/-- The characters for which a property, named first, has a value. -/
def withValue? (property value : String) : Option CharSet :=
  let property := canonicalName property
  let value := canonicalName value
  if property == "gc" || property == "generalcategory" then category? value
  else if property == "sc" || property == "script" then inTable? scriptTable value
  else if property == "scx" || property == "scriptextensions" then scriptExtensions? value
  else if property == "age" then age? value
  else if property == "gcb" || property == "graphemeclusterbreak" then
    inTable? graphemeBreakTable value
  else if property == "sb" || property == "sentencebreak" then inTable? sentenceBreakTable value
  else if property == "wb" || property == "wordbreak" then inTable? wordBreakTable value
  else none

/-! ### Classes with a letter of their own -/

/-- The decimal digits of all scripts. -/
def digits : CharSet := (category? "nd").getD []

/-- The characters with the property `White_Space`. -/
def blanks : CharSet := (inTable? propertyTable "whitespace").getD []

/-- The characters of words: letters, marks, digits, connecting punctuation and joiners. -/
def words : CharSet :=
  unionAll
    [(inTable? propertyTable "alphabetic").getD [], (category? "m").getD [], digits,
      (category? "pc").getD [], (inTable? propertyTable "joincontrol").getD []]

end CharSet
end ExprLang
