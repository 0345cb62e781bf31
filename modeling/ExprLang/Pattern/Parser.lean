import ExprLang.Number.Integer
import ExprLang.Pattern.Room
import ExprLang.Text.Additions
import ExprLang.Text.Blank
import ExprLang.Text.Escape

/-!
# Reading patterns

The written form of regular expressions: alternatives, repetitions, groups with and without names,
flags, bracketed classes with set operations, escapes and classes of Unicode properties.  There is
no looking around and no reference back to a group.

A pattern that cannot be read is simply none; why it cannot is not told.

## Main definitions

* `PatternFlags`, `PatternReader` — what the reader keeps track of.
* `escape`, `bracket`, `alternatives` — the parts of a pattern.
* `Pattern.parse?` — the pattern a text stands for.

## References

`SPEC_FULL.md`, 10.1, on `matches`; which texts the reference's `full_match_regex` compiles, and in
which form.
-/

namespace ExprLang

open scoped CorePower

/-! ### The reader -/

/-- The flags in force at a place of a pattern. -/
structure PatternFlags where
  ignoreCase : Bool
  multiLine : Bool
  dotAll : Bool
  crlf : Bool
  /-- A repetition is lazy unless it is marked, and not the other way round. -/
  swapGreed : Bool
  unicode : Bool
  /-- Blanks and comments between the parts of the pattern do not count. -/
  extended : Bool

/-- What is left to read, the flags in force, the names of the groups so far and the number of all
groups so far. -/
structure PatternState where
  rest : List Char
  flags : PatternFlags
  names : List (List Char)
  groups : Nat

/-- A reader of patterns. -/
abbrev PatternReader := StateT PatternState Option

/-- The most levels that the tree of a pattern may have. -/
def patternNestLimit : Nat := 250

/-- A part of a pattern that has been read, with the height of its tree. -/
structure Piece where
  pattern : Pattern
  height : Nat
  /-- Whether a repetition may follow. -/
  repeatable : Bool

namespace PatternReader

mutual

/-- What follows blanks and comments. -/
def afterSpace : List Char → List Char
  | [] => []
  | c :: cs => if isBlank c then afterSpace cs else if c == '#' then afterComment cs else c :: cs

/-- What follows the rest of a comment. -/
def afterComment : List Char → List Char
  | [] => []
  | c :: cs => if c == '\n' then afterSpace cs else afterComment cs

end

/-- Skips blanks and comments if they do not count. -/
def skipSpace : PatternReader Unit := do
  let s ← get
  if s.flags.extended then set { s with rest := afterSpace s.rest }

def peek : PatternReader (Option Char) := do return (← get).rest.head?

/-- Consumes the next character. -/
def next : PatternReader Char := do
  let s ← get
  match s.rest with
  | [] => failure
  | c :: rest =>
    set { s with rest := rest }
    pure c

/-- Consumes the next character and the space behind it. -/
def nextAndSpace : PatternReader Char := do
  let c ← next
  skipSpace
  pure c

/-- Consumes the given character. -/
def expect (c : Char) : PatternReader Unit := do
  if (← next) != c then failure

/-- Consumes the given characters if they come next. -/
def accept (cs : List Char) : PatternReader Bool := do
  let s ← get
  if cs.isPrefixOf s.rest then
    set { s with rest := s.rest.drop cs.length }
    pure true
  else pure false

/-- Consumes a number of characters. -/
def skip (n : Nat) : PatternReader Unit := modify fun s => { s with rest := s.rest.drop n }

/-- Skips blanks, also where they count. -/
def skipBlanks : PatternReader Unit := modify fun s => { s with rest := s.rest.dropWhile isBlank }

def setFlags (f : PatternFlags) : PatternReader Unit := modify fun s => { s with flags := f }

/-- There must be something left to read. -/
def demandMore : PatternReader Unit := do
  if (← get).rest.isEmpty then failure

/-- Consumes characters of a class, and the space behind each, while there are any. -/
def spacedRun (p : Char → Bool) : Nat → PatternReader (List Char)
  | 0 => pure []
  | fuel + 1 => do
    match ← peek with
    | some c =>
      if p c then
        let _ ← nextAndSpace
        return c :: (← spacedRun p fuel)
      else pure []
    | none => pure []

/-! ### Single characters and sets -/

/-- The set with the other cases of its members if case does not count. -/
def foldSet (flags : PatternFlags) (s : CharSet) : CharSet :=
  if flags.ignoreCase then if flags.unicode then s.foldCase else s.foldAsciiCase else s

/-- The set or what is not in it.  Without the Unicode flag a set must stay within ASCII. -/
def finishSet (flags : PatternFlags) (negated : Bool) (s : CharSet) : PatternReader CharSet := do
  let s := if negated then s.complement else s
  if !flags.unicode && !s.isAscii then failure
  pure s

/-- The named classes of ASCII characters. -/
def asciiClass? : List Char → Option CharSet
  | ['a', 'l', 'n', 'u', 'm'] => some [(0x30, 0x39), (0x41, 0x5A), (0x61, 0x7A)]
  | ['a', 'l', 'p', 'h', 'a'] => some [(0x41, 0x5A), (0x61, 0x7A)]
  | ['a', 's', 'c', 'i', 'i'] => some [(0, 0x7F)]
  | ['b', 'l', 'a', 'n', 'k'] => some [(0x9, 0x9), (0x20, 0x20)]
  | ['c', 'n', 't', 'r', 'l'] => some [(0, 0x1F), (0x7F, 0x7F)]
  | ['d', 'i', 'g', 'i', 't'] => some [(0x30, 0x39)]
  | ['g', 'r', 'a', 'p', 'h'] => some [(0x21, 0x7E)]
  | ['l', 'o', 'w', 'e', 'r'] => some [(0x61, 0x7A)]
  | ['p', 'r', 'i', 'n', 't'] => some [(0x20, 0x7E)]
  | ['p', 'u', 'n', 'c', 't'] => some [(0x21, 0x2F), (0x3A, 0x40), (0x5B, 0x60), (0x7B, 0x7E)]
  | ['s', 'p', 'a', 'c', 'e'] => some [(0x9, 0xD), (0x20, 0x20)]
  | ['u', 'p', 'p', 'e', 'r'] => some [(0x41, 0x5A)]
  | ['w', 'o', 'r', 'd'] => some [(0x30, 0x39), (0x41, 0x5A), (0x5F, 0x5F), (0x61, 0x7A)]
  | ['x', 'd', 'i', 'g', 'i', 't'] => some [(0x30, 0x39), (0x41, 0x46), (0x61, 0x66)]
  | _ => none

/-- The class with a letter of its own: digits, blanks or word characters. -/
def letterClass (flags : PatternFlags) : Char → CharSet
  | 'd' => if flags.unicode then CharSet.digits else [(0x30, 0x39)]
  | 's' => if flags.unicode then CharSet.blanks else [(0x9, 0xD), (0x20, 0x20)]
  | _ =>
    if flags.unicode then CharSet.words else [(0x30, 0x39), (0x41, 0x5A), (0x5F, 0x5F), (0x61, 0x7A)]

/-! ### Escapes -/

/-- What an escape, or a character that stands for itself, contributes. -/
inductive Primitive
  /-- A character; `byte` tells that it was written as a byte of two digits. -/
  | literal (c : Char) (byte : Bool)
  | set (s : CharSet)
  | anchor (a : Anchor)

/-- The characters with a meaning of their own somewhere in a pattern. -/
def isMeta (c : Char) : Bool :=
  ['\\', '.', '+', '*', '?', '(', ')', '|', '[', ']', '\x7b', '\x7d', '^', '$', '#', '&', '-', '~'].contains c

/-- Whether a backslash may stand before a character without giving it another meaning. -/
def isEscapable (c : Char) : Bool :=
  isMeta c || (c.toNat < 0x80 && !c.isAlphanum && c != '<' && c != '>')

/-- The character with the code point written in hexadecimal digits. -/
def hexChar (ds : List Char) : PatternReader Char :=
  match (readHex? ds).bind charOf? with
  | some c => pure c
  | none => failure

/-- A number of hexadecimal digits, with the space that may stand between them. -/
def hexDigits : Nat → PatternReader (List Char)
  | 0 => pure []
  | n + 1 => do
    let c ← next
    if (hexDigit? c).isNone then failure
    skipSpace
    return c :: (← hexDigits n)

/-- The code point behind `\x`, `\u` or `\U`: in braces, or with a fixed number of digits. -/
def hexEscape (kind : Char) : PatternReader Primitive := do
  skipSpace
  if (← peek) = some '\x7b' then
    let _ ← nextAndSpace
    let ds ← spacedRun (fun c => (hexDigit? c).isSome) (← get).rest.length
    if (← nextAndSpace) != '\x7d' then failure
    return .literal (← hexChar ds) false
  else
    let n := if kind == 'x' then 2 else if kind == 'u' then 4 else 8
    let ds ← hexDigits n
    return .literal (← hexChar ds) (kind == 'x')

/-- Where a text occurs first in another: what is before it and what is behind it. -/
def splitAt? (mark : List Char) : List Char → Option (List Char × List Char)
  | [] => none
  | c :: cs =>
    if mark.isPrefixOf (c :: cs) then some ([], (c :: cs).drop mark.length)
    else (splitAt? mark cs).map fun p => (c :: p.1, p.2)

/-- The set that a name in braces stands for, and whether it is negated: a name alone, or a property
with its value. -/
def propertySet? (name : List Char) : Option (CharSet × Bool) :=
  let valued (p : List Char × List Char) (negated : Bool) :=
    (CharSet.withValue? (String.ofList p.1) (String.ofList p.2)).map fun s => (s, negated)
  match splitAt? ['!', '='] name with
  | some p => valued p true
  | none =>
    match splitAt? [':'] name with
    | some p => valued p false
    | none =>
      match splitAt? ['='] name with
      | some p => valued p false
      | none => (CharSet.named? (String.ofList name)).map fun s => (s, false)

/-- The class with the given name behind `\p` or `\P`. -/
def namedProperty (kind : Char) (flags : PatternFlags) (name : List Char) :
    PatternReader Primitive := do
  match propertySet? name with
  | none => failure
  | some (s, negated) =>
    return .set (← finishSet flags ((kind == 'P') != negated) (foldSet flags s))

/-- The class behind `\p` or `\P`. -/
def propertyEscape (kind : Char) : PatternReader Primitive := do
  skipSpace
  let flags := (← get).flags
  let name ←
    if (← peek) = some '\x7b' then do
      let _ ← nextAndSpace
      let name ← spacedRun (· != '\x7d') (← get).rest.length
      expect '\x7d'
      pure name
    else do
      let c ← nextAndSpace
      if c == '\\' then failure
      pure [c]
  if !flags.unicode then failure
  namedProperty kind flags name

/-- Whether a character may stand in the name of an anchor. -/
def isAnchorNameChar (c : Char) : Bool := c.isAlpha || c == '-'

/-- The anchor with the name that comes next, up to its closing brace. -/
def namedAnchor (ascii : Bool) : PatternReader Primitive := do
  let name ← spacedRun isAnchorNameChar (← get).rest.length
  expect '\x7d'
  match String.ofList name with
  | "start" => return .anchor (.wordStart ascii)
  | "end" => return .anchor (.wordEnd ascii)
  | "start-half" => return .anchor (.wordStartHalf ascii)
  | "end-half" => return .anchor (.wordEndHalf ascii)
  | _ => failure

/-- The anchor behind `\b`: one named in braces, or else the boundary of a word.  A brace that no name
stands behind is the beginning of a counted repetition. -/
def boundaryEscape : PatternReader Primitive := do
  let s ← get
  let ascii := !s.flags.unicode
  let behind := if s.flags.extended then afterSpace (s.rest.drop 1) else s.rest.drop 1
  if s.rest.head? != some '\x7b' then return .anchor (.boundary ascii)
  else if behind.isEmpty then failure
  else if behind.head?.any isAnchorNameChar then
    let _ ← nextAndSpace
    namedAnchor ascii
  else return .anchor (.boundary ascii)

/-- What a character stands for behind a backslash. -/
def escaped (flags : PatternFlags) (c : Char) : PatternReader Primitive := do
  let ascii := !flags.unicode
  if c == 'x' || c == 'u' || c == 'U' then hexEscape c
  else if c == 'p' || c == 'P' then propertyEscape c
  else if c == 'd' || c == 's' || c == 'w' then return .set (letterClass flags c)
  else if c == 'D' || c == 'S' || c == 'W' then
    return .set (← finishSet flags true (letterClass flags c.toLower))
  else if isEscapable c then return .literal c false
  else
    match c with
    | 'a' => return .literal '\x07' false
    | 'f' => return .literal '\x0c' false
    | 't' => return .literal '\t' false
    | 'n' => return .literal '\n' false
    | 'r' => return .literal '\r' false
    | 'v' => return .literal '\x0b' false
    | 'A' => return .anchor .textStart
    | 'z' => return .anchor .textEnd
    | 'b' => boundaryEscape
    | 'B' => return .anchor (.noBoundary ascii)
    | '<' => return .anchor (.wordStart ascii)
    | '>' => return .anchor (.wordEnd ascii)
    | _ => failure

/-- What follows a backslash. -/
def escape : PatternReader Primitive := do
  let flags := (← get).flags
  escaped flags (← next)

/-- A single character as a pattern.  A byte above ASCII is no character without the Unicode flag. -/
def literal (c : Char) (byte : Bool) : PatternReader Pattern := do
  let flags := (← get).flags
  if !flags.unicode && byte && 0x80 ≤ c.toNat then failure
  return .ofSet (foldSet flags (.single c))

/-- What the dot stands for: any character, as a rule except the ends of lines. -/
def dot : PatternReader Pattern := do
  let flags := (← get).flags
  if !flags.unicode then failure
  return .ofSet <|
    if flags.dotAll then CharSet.complement []
    else if flags.crlf then CharSet.complement [(0xA, 0xA), (0xD, 0xD)]
    else CharSet.complement [(0xA, 0xA)]

/-- What an escape stands for outside of brackets. -/
def Primitive.toPattern : Primitive → PatternReader Pattern
  | .literal c byte => PatternReader.literal c byte
  | .set s => return .ofSet s
  | .anchor a => return .anchor a

/-- What a character stands for that is no backslash. -/
def unescaped (flags : PatternFlags) : Char → PatternReader Pattern
  | '.' => dot
  | '^' =>
    return .anchor <|
      if flags.multiLine then if flags.crlf then .crlfLineStart else .lineStart else .textStart
  | '$' =>
    return .anchor <|
      if flags.multiLine then if flags.crlf then .crlfLineEnd else .lineEnd else .textEnd
  | c => literal c false

/-- One character, class or anchor outside of brackets. -/
def primitive : PatternReader Pattern := do
  let flags := (← get).flags
  let c ← next
  if c == '\\' then (← escape).toPattern else unescaped flags c

/-! ### Bracketed classes -/

/-- The operations between sets. -/
inductive SetOperation
  | intersection
  | difference
  | symmetricDifference

def SetOperation.apply : SetOperation → CharSet → CharSet → CharSet
  | intersection => CharSet.intersection
  | difference => CharSet.difference
  | symmetricDifference => CharSet.symmetricDifference

/-- A set that has been read inside of brackets, with the height of its tree. -/
structure SetPiece where
  set : CharSet
  height : Nat

/-- The union of pieces that stand next to each other. -/
def joinSets : List SetPiece → SetPiece
  | [] => ⟨[], 0⟩
  | [p] => p
  | ps => ⟨CharSet.unionAll (ps.map SetPiece.set), 1 + (ps.map SetPiece.height).foldl max 0⟩

/-- Completes an operation that was waiting for its right side. -/
def combine (flags : PatternFlags) : Option (SetOperation × SetPiece) → SetPiece → SetPiece
  | none, rhs => rhs
  | some (op, lhs), rhs =>
    ⟨op.apply (foldSet flags lhs.set) (foldSet flags rhs.set), 1 + max lhs.height rhs.height⟩

/-- What stands before a colon and a closing bracket; no other colon may come before them. -/
def untilColon? (cs : List Char) : Option (List Char) :=
  if [':', ']'].isPrefixOf (cs.dropWhile (· != ':')) then some (cs.takeWhile (· != ':')) else none

/-- A class of ASCII characters by name, such as `[:alpha:]`, and how many characters it has behind its
bracket. -/
def namedAscii? (cs : List Char) : Option (CharSet × Bool × Nat) := do
  let negated := ['[', ':', '^'].isPrefixOf cs
  if negated || ['[', ':'].isPrefixOf cs then
    let name ← untilColon? (cs.drop (if negated then 3 else 2))
    return (← asciiClass? name, negated, name.length + if negated then 4 else 3)
  else none

/-- What comes next inside of brackets. -/
inductive Upcoming
  | nothing
  | named (s : CharSet) (negated : Bool) (length : Nat)
  | bracket
  | closing
  | operation (op : SetOperation)
  | range

def upcoming (cs : List Char) : Upcoming :=
  match namedAscii? cs with
  | some (set, negated, length) => .named set negated length
  | none =>
    if cs.isEmpty then .nothing
    else if ['['].isPrefixOf cs then .bracket
    else if [']'].isPrefixOf cs then .closing
    else if ['&', '&'].isPrefixOf cs then .operation .intersection
    else if ['-', '-'].isPrefixOf cs then .operation .difference
    else if ['~', '~'].isPrefixOf cs then .operation .symmetricDifference
    else .range

/-- One end of a range, or an item of its own. -/
def setItem : PatternReader Primitive := do
  let c ← next
  if c == '\\' then escape else return .literal c false

/-- The code point that a literal contributes to a set. -/
def setLiteral (flags : PatternFlags) (c : Char) : PatternReader Nat := do
  if !flags.unicode && 0x80 ≤ c.toNat then failure
  return c.toNat

/-- What stands behind a hyphen, looked at without being consumed.  Of a comment the mark is passed
over, but not its text. -/
def behindHyphen (flags : PatternFlags) (cs : List Char) : Option Char :=
  if flags.extended then
    match cs.dropWhile isBlank with
    | '#' :: rest => (rest.dropWhile isBlank).head?
    | rest => rest.head?
  else cs.head?

/-- Whether an item is no end of a range, by what stands behind it. -/
def standsAlone (flags : PatternFlags) (rest : List Char) : Bool :=
  let behind := behindHyphen flags (rest.drop 1)
  rest.head? != some '-' || behind == some ']' || behind == some '-'

/-- An item of its own. -/
def oneItem (flags : PatternFlags) : Primitive → PatternReader CharSet
  | .literal c _ => do
    let n ← setLiteral flags c
    return [(n, n)]
  | .set s => return s
  | .anchor _ => failure

/-- The range between two items. -/
def rangeBetween (flags : PatternFlags) : Primitive → Primitive → PatternReader CharSet
  | .literal a _, .literal b _ => do
    let lo ← setLiteral flags a
    let hi ← setLiteral flags b
    if hi < lo then failure
    return [(lo, hi)]
  | _, _ => failure

/-- An item, or the range that begins with it. -/
def rangeFrom (flags : PatternFlags) (first : Primitive) : PatternReader CharSet := do
  skipSpace
  demandMore
  if standsAlone flags (← get).rest then oneItem flags first
  else
    let _ ← nextAndSpace
    demandMore
    rangeBetween flags first (← setItem)

/-- A character, a class or a range of characters inside of brackets. -/
def setRange : PatternReader CharSet := do
  let flags := (← get).flags
  rangeFrom flags (← setItem)

/-- Hyphens at the front of a bracketed class, which stand for themselves. -/
def leadingHyphens : Nat → PatternReader (List SetPiece)
  | 0 => pure []
  | fuel + 1 => do
    if (← peek) = some '-' then
      let _ ← nextAndSpace
      demandMore
      return ⟨.single '-', 0⟩ :: (← leadingHyphens fuel)
    else pure []

/-- Reads the opening bracket, the sign of negation, and the characters that stand for themselves
because they come first. -/
def bracketHead : PatternReader (Bool × List SetPiece) := do
  let _ ← nextAndSpace
  demandMore
  let negated := (← peek) == some '^'
  if negated then
    let _ ← nextAndSpace
    demandMore
  let hyphens ← leadingHyphens (← get).rest.length
  if hyphens.isEmpty && (← peek) == some ']' then
    let _ ← nextAndSpace
    demandMore
    return (negated, [⟨.single ']', 0⟩])
  return (negated, hyphens)

mutual

/-- A bracketed class.  Between two characters that are consumed there are two calls at most. -/
def bracket : Nat → PatternReader SetPiece
  | 0 => failure
  | fuel + 1 => do
    let flags := (← get).flags
    let (negated, items) ← bracketHead
    let inner ← bracketItems fuel none items
    return ⟨← finishSet flags negated (foldSet flags inner.set), 1 + inner.height⟩

/-- The items of a class up to its closing bracket; `waiting` is an operation with its left side. -/
def bracketItems : Nat → Option (SetOperation × SetPiece) → List SetPiece → PatternReader SetPiece
  | 0, _, _ => failure
  | fuel + 1, waiting, items => do
    skipSpace
    let s ← get
    match upcoming s.rest with
    | .nothing => failure
    | .named set negated length =>
      let _ ← next
      skip length
      let set ← finishSet s.flags negated (foldSet s.flags set)
      bracketItems fuel waiting (⟨set, 0⟩ :: items)
    | .bracket =>
      let inner ← bracket fuel
      bracketItems fuel waiting (inner :: items)
    | .closing =>
      let _ ← next
      return combine s.flags waiting (joinSets items)
    | .operation op =>
      let _ ← next
      let _ ← next
      bracketItems fuel (some (op, combine s.flags waiting (joinSets items))) []
    | .range =>
      let set ← setRange
      bracketItems fuel waiting (⟨set, 0⟩ :: items)

end

/-! ### Groups -/

/-- How a group begins. -/
inductive GroupHead
  /-- No group, but flags for what follows. -/
  | flags (f : PatternFlags)
  /-- A group with the flags that hold inside of it, and its number unless it has none. -/
  | group (number : Option Nat) (f : PatternFlags)

/-- Switches one flag. -/
def switchFlag? (on : Bool) (f : PatternFlags) : Char → Option PatternFlags
  | 'i' => some { f with ignoreCase := on }
  | 'm' => some { f with multiLine := on }
  | 's' => some { f with dotAll := on }
  | 'U' => some { f with swapGreed := on }
  | 'u' => some { f with unicode := on }
  | 'R' => some { f with crlf := on }
  | 'x' => some { f with extended := on }
  | _ => none

/-- The flags behind one more character.  Those behind a hyphen are switched off; no flag and no hyphen
may stand there twice. -/
def flagsBehind? (seen : List Char) (f : PatternFlags) (c : Char) : Option PatternFlags :=
  if seen.contains c then none
  else if c == '-' then some f
  else switchFlag? (!seen.contains '-') f c

/-- Flags up to the character that ends them, which may not stand behind a hyphen. -/
def flagItems : (fuel : Nat) → (seen : List Char) → PatternFlags →
    PatternReader (List Char × PatternFlags)
  | 0, _, _ => failure
  | fuel + 1, seen, f => do
    demandMore
    let c? ← peek
    if c? = some ':' ∨ c? = some ')' then
      if seen.head? = some '-' then failure
      return (seen, f)
    else
      let c ← next
      match flagsBehind? seen f c with
      | some f => flagItems fuel (c :: seen) f
      | none => failure

/-- Whether a character may stand in the name of a group. -/
def isGroupNameChar (first : Bool) (c : Char) : Bool :=
  c == '_' || CharSet.letters.contains c ||
    (!first && (c == '.' || c == '[' || c == ']' || CharSet.numbers.contains c))

def isGroupName (name : List Char) : Bool :=
  !name.isEmpty && name.head?.all (isGroupNameChar true) && (name.drop 1).all (isGroupNameChar false)

/-- The name of a group, which no other group has. -/
def groupName : PatternReader Unit := do
  let s ← get
  let name := s.rest.takeWhile (· != '>')
  if !isGroupName name || s.names.contains name then failure
  set { s with rest := s.rest.dropWhile (· != '>'), names := name :: s.names }
  expect '>'

/-- The number of the next group. -/
def groupNumber : PatternReader Nat := do
  let s ← get
  set { s with groups := s.groups + 1 }
  return s.groups + 1

/-- The head of a group with flags, or flags without a group, behind the question mark. -/
def flaggedHead (outside : PatternFlags) : PatternReader GroupHead := do
  let items ← flagItems ((← get).rest.length + 1) [] outside
  if (← next) == ')' then
    if items.1.isEmpty then failure
    return .flags items.2
  else return .group none items.2

/-- The head of a group, which has a name if it has been marked so. -/
def markedHead (outside : PatternFlags) (named : Bool) : PatternReader GroupHead := do
  if named then
    groupName
    return .group (some (← groupNumber)) outside
  else if ← accept ['?'] then flaggedHead outside
  else return .group (some (← groupNumber)) outside

/-- What follows an opening parenthesis and the space behind it. -/
def groupHead : PatternReader GroupHead := do
  let s ← get
  let ahead := [['?', '='], ['?', '!'], ['?', '<', '='], ['?', '<', '!']]
  if ahead.any fun cs => cs.isPrefixOf s.rest then failure
  markedHead s.flags (← if ← accept ['?', 'P', '<'] then pure true else accept ['?', '<'])

/-! ### Repetition -/

/-- A decimal number of at most 32 bits, with blanks around it; none if there is no digit. -/
def decimal : PatternReader (Option Nat) := do
  skipBlanks
  let ds ← spacedRun Char.isDigit (← get).rest.length
  skipBlanks
  match readNat? ds with
  | none => return none
  | some n => if n < 2 ^ (32 : Nat) then return some n else failure

/-- A number that has to be there. -/
def required : Option Nat → PatternReader Nat
  | some n => pure n
  | none => failure

/-- The bounds of a counted repetition, from its opening brace to its closing one. -/
def bounds : PatternReader (Nat × Option Nat) := do
  let _ ← nextAndSpace
  demandMore
  let least ← decimal
  if (← peek) = some ',' then
    let _ ← nextAndSpace
    let most ← if (← peek) = some '\x7d' then pure none else some <$> (do required (← decimal))
    expect '\x7d'
    return (← required least, most)
  else
    expect '\x7d'
    let n ← required least
    return (n, some n)

/-- The pieces with their last one repeated. -/
def repeatLast (least : Nat) (most : Option Nat) (lazy : Bool) :
    List Piece → PatternReader (List Piece)
  | [] => failure
  | p :: ps => do
    if !p.repeatable || most.any (· < least) then failure
    return ⟨p.pattern.times least most lazy, p.height + 1, true⟩ :: ps

/-! ### Whole patterns -/

/-- Pieces one after the other; the list has the last of them first. -/
def joinPieces : List Piece → Piece
  | [] => ⟨.empty, 0, false⟩
  | [p] => p
  | ps =>
    ⟨.concat (ps.reverse.map Piece.pattern), 1 + (ps.map Piece.height).foldl max 0, true⟩

/-- Alternatives; the list has the last of them first. -/
def joinBranches : List Piece → Piece
  | [] => ⟨.empty, 0, false⟩
  | [p] => p
  | ps =>
    ⟨.alternate (ps.reverse.map Piece.pattern), 1 + (ps.map Piece.height).foldl max 0, true⟩

/-- Repeats the last piece, by the mark or the bounds that have been read, and goes on. -/
def repeatThen (goOn : List Piece → PatternReader Piece) (least : Nat) (most : Option Nat)
    (pieces : List Piece) : PatternReader Piece := do
  let lazy ← accept ['?']
  goOn (← repeatLast least most (lazy != (← get).flags.swapGreed) pieces)

/-- Reads a group behind its head, with its inside up to the closing parenthesis, and goes on with the
flags from outside.  Flags that are switched without a group hold for what follows. -/
def groupRest (inside : PatternReader Piece) (goOn : List Piece → PatternReader Piece)
    (pieces : List Piece) (outside : PatternFlags) : GroupHead → PatternReader Piece
  | .flags f => do
    setFlags f
    goOn (⟨.empty, 0, false⟩ :: pieces)
  | .group number f => do
    setFlags f
    let inner ← inside
    expect ')'
    setFlags outside
    let pattern := (number.map fun n => Pattern.group n inner.pattern).getD inner.pattern
    goOn (⟨pattern, inner.height + 1, true⟩ :: pieces)

/-- Reads a group behind its opening parenthesis, and goes on. -/
def groupThen (inside : PatternReader Piece) (goOn : List Piece → PatternReader Piece)
    (pieces : List Piece) : PatternReader Piece := do
  let outside := (← get).flags
  groupRest inside goOn pieces outside (← groupHead)

/-- What can come next among alternatives. -/
inductive NextPart
  | ending
  | bar
  | group
  | bracket
  /-- A mark of repetition. -/
  | mark (least : Nat) (most : Option Nat)
  /-- A counted repetition. -/
  | bounds
  | single

def nextPart : Option Char → NextPart
  | none | some ')' => .ending
  | some '|' => .bar
  | some '(' => .group
  | some '[' => .bracket
  | some '?' => .mark 0 (some 1)
  | some '*' => .mark 0 none
  | some '+' => .mark 1 none
  | some '\x7b' => .bounds
  | some _ => .single

/-- Alternatives up to a closing parenthesis or the end.  `branches` are the complete ones and
`pieces` those of the current one, the last of each first. -/
def alternatives : Nat → (branches pieces : List Piece) → PatternReader Piece
  | 0, _, _ => failure
  | fuel + 1, branches, pieces => do
    skipSpace
    match nextPart (← peek) with
    | .ending => return joinBranches (joinPieces pieces :: branches)
    | .bar =>
      let _ ← next
      alternatives fuel (joinPieces pieces :: branches) []
    | .group =>
      let _ ← nextAndSpace
      groupThen (alternatives fuel [] []) (alternatives fuel branches) pieces
    | .bracket =>
      let set ← bracket (2 * (← get).rest.length + 1)
      alternatives fuel branches (⟨.ofSet set.set, set.height, true⟩ :: pieces)
    | .mark least most =>
      let _ ← next
      repeatThen (alternatives fuel branches) least most pieces
    | .bounds =>
      let (least, most) ← bounds
      skipSpace
      repeatThen (alternatives fuel branches) least most pieces
    | .single =>
      let p ← primitive
      alternatives fuel branches (⟨p, 0, true⟩ :: pieces)

end PatternReader

/-- The flags at the front of a pattern. -/
def PatternFlags.initial : PatternFlags := ⟨false, false, false, false, false, true, false⟩

/-- The state in front of a pattern. -/
def PatternState.initial (cs : List Char) : PatternState := ⟨cs, .initial, [], 0⟩

/-- Whether a piece as a whole pattern does not nest too deeply and would not take too much room. -/
def Piece.admitted (p : Piece) : Bool := p.height ≤ patternNestLimit && p.pattern.fits

/-- The piece that a text begins with, and what is left of the text: it is read up to a closing
parenthesis without an opening one, or as a whole. -/
def Pattern.reading? (cs : List Char) : Option (Piece × PatternState) :=
  PatternReader.alternatives (cs.length + 2) [] [] (.initial cs)

/-- The pattern a text stands for, unless it nests too deeply or would take too much room. -/
def Pattern.parse? (text : String) : Option Pattern :=
  match Pattern.reading? text.toList with
  | none => none
  | some (p, s) => if s.rest.isEmpty && p.admitted then some p.pattern else none

/-- A pattern's text between the anchors of a whole text. -/
def Pattern.anchored (pattern : String) : String := "^(?:" ++ pattern ++ ")$"

/-- Whether a text matches a pattern from its first to its last character, for a pattern that can be
read between the anchors. -/
def Pattern.fullMatch? (pattern text : String) : Option Bool :=
  (Pattern.parse? (Pattern.anchored pattern)).map fun p => p.occursIn text

end ExprLang
