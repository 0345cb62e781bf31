import ExprLang.Number.Power
import ExprLang.Json
import ExprLang.Text.Escape

/-!
# Reading JSON

Strict reading of JSON texts.  Of a text that is no document it is not told why.

A text is read in two steps.  The first one settles its form and leaves open whether its strings are
made of characters and its numbers have doubles; the second one decides that.  A reader that
passes over parts of a text needs only the first step for them.

A number that is not whole, or too large for 64 bits, is found from its first digits, as many as
make a number of 64 bits, and a power of ten: one multiplication or division of doubles, which
need not give the very nearest double.

## Main definitions

* `Json.Draft`, `Json.draft?` — a document of which only the form is settled.
* `Json.Draft.finish?` — the document of a draft.
* `Json.parse?` — the document a text stands for.

## References

`SPEC_FULL.md`, 10.10; the documents that the reference's `json_or_string`, `build_context` and
`load_config` read.
-/

namespace ExprLang

open scoped CorePower
namespace Json

/-- A document of which only the form is settled.  A string is a list of code points and of 16-bit
units, and a number beyond the doubles is none; entries stand as they are written. -/
inductive Draft
  | null
  | boolean (b : Bool)
  | number (n : Option Json.Number)
  | string (codes : List Nat)
  | array (items : List Draft)
  | object (entries : List (List Nat × Draft))

instance : Inhabited Draft := ⟨.null⟩

/-- A reader of characters. -/
abbrev Reader := StateT (List Char) Option

namespace Reader

/-- The blanks of the format. -/
def isSpace (c : Char) : Bool := c == ' ' || c == '\n' || c == '\t' || c == '\r'

def skipSpace : Reader Unit := modify fun cs => cs.dropWhile isSpace

def peek : Reader (Option Char) := do return (← get).head?

def next : Reader Char := do
  match ← get with
  | [] => failure
  | c :: cs =>
    set cs
    pure c

/-- Consumes the given characters. -/
def expect (cs : List Char) : Reader Unit := do
  let rest ← get
  if cs.isPrefixOf rest then set (rest.drop cs.length) else failure

/-! ### Strings -/

/-- Four hexadecimal digits. -/
def codeUnit : Reader Nat := do
  let cs ← get
  let ds := cs.take 4
  if ds.length = 4 ∧ ds.all fun c => (hexDigit? c).isSome then
    set (cs.drop 4)
    match readHex? ds with
    | some n => pure n
    | none => failure
  else failure

/-- The code of an escape: a code point, or a 16-bit unit. -/
def escape : Reader Nat := do
  match ← next with
  | '"' => return '"'.toNat
  | '\\' => return '\\'.toNat
  | '/' => return '/'.toNat
  | 'b' => return 0x08
  | 'f' => return 0x0C
  | 'n' => return '\n'.toNat
  | 'r' => return '\r'.toNat
  | 't' => return '\t'.toNat
  | 'u' => codeUnit
  | _ => failure

/-- The codes of a string up to its closing quote. -/
def stringBody : Nat → Reader (List Nat)
  | 0 => failure
  | fuel + 1 => do
    match ← next with
    | '"' => return []
    | '\\' => do
      let n ← escape
      return n :: (← stringBody fuel)
    | c => if c.toNat < 0x20 then failure else return c.toNat :: (← stringBody fuel)

/-- A string behind its opening quote. -/
def string : Reader (List Nat) := do stringBody ((← get).length + 1)

/-! ### Numbers -/

/-- Takes digits into a number while it stays below `2 ^ 64`; answers the number, how many digits it
took, and what follows. -/
def takeDigits (n : Nat) : List Char → Nat × Nat × List Char
  | [] => (n, 0, [])
  | c :: cs =>
    let next := n * 10 + (c.toNat - '0'.toNat)
    if c.isDigit ∧ next < 2 ^ (64 : Nat) then
      let (m, taken, rest) := takeDigits next cs
      (m, taken + 1, rest)
    else (n, 0, c :: cs)

/-- The double for `n * 10 ^ e`; there is none beyond the largest.  Powers beyond `10 ^ 308` are
divided out in steps, of which a few leave nothing. -/
def scaled? : (rounds : Nat) → Float → Int → Option Float
  | 0, x, _ => some x
  | rounds + 1, x, e =>
    if e.natAbs ≤ 308 then
      let power := Double.ofNat (10 ^ e.natAbs)
      if 0 ≤ e then
        let y := x * power
        if Double.isFinite y then some y else none
      else some (x / power)
    else if Double.isZero x then some x
    else if 0 ≤ e then none
    else scaled? rounds (x / Double.ofNat (10 ^ (308 : Nat))) (e + 308)

/-- An exponent behind its letter. -/
def exponent : Reader Int := do
  let cs ← get
  let (negative, cs) := match cs with
    | '+' :: r => (false, r)
    | '-' :: r => (true, r)
    | r => (false, r)
  let ds := cs.takeWhile Char.isDigit
  set (cs.dropWhile Char.isDigit)
  match readNat? ds with
  | some n => pure (if negative then -(n : Int) else n)
  | none => failure

/-- A number behind its sign. -/
def unsignedNumber (negative : Bool) : Reader (Option Number) := do
  let cs ← get
  let wholeDigits := cs.takeWhile Char.isDigit
  if wholeDigits.isEmpty || (wholeDigits.length > 1 && wholeDigits.head? == some '0') then failure
  -- what of the whole part finds no room counts as a power of ten
  let (n, taken, rest) := takeDigits 0 cs
  let beyond : Nat := wholeDigits.length - taken
  set (rest.drop beyond)
  let mut significand := n
  let mut e : Int := beyond
  let mut isWhole := beyond == 0
  if (← peek) = some '.' then
    let _ ← next
    let cs ← get
    if !cs.head?.any Char.isDigit then failure
    let (m, taken, rest) := takeDigits n cs
    set (rest.dropWhile Char.isDigit)
    significand := m
    e := e - taken
    isWhole := false
  if (← peek) = some 'e' ∨ (← peek) = some 'E' then
    let _ ← next
    e := e + (← exponent)
    isWhole := false
  if isWhole && !negative then return some (.whole n)
  if isWhole && 0 < n && n ≤ 2 ^ (63 : Nat) then return some (.whole (-n))
  return (scaled? 8 (Double.ofNat significand) e).map fun x => .double (if negative then -x else x)

def number : Reader (Option Number) := do
  if (← peek) = some '-' then
    let _ ← next
    unsignedNumber true
  else unsignedNumber false

/-! ### Documents -/

mutual

/-- A document, with `depth` levels of arrays and objects left to open. -/
def document : Nat → (depth : Nat) → Reader Draft
  | 0, _ => failure
  | fuel + 1, depth => do
    skipSpace
    match ← peek with
    | none => failure
    | some 'n' =>
      expect ['n', 'u', 'l', 'l']
      return .null
    | some 't' =>
      expect ['t', 'r', 'u', 'e']
      return .boolean true
    | some 'f' =>
      expect ['f', 'a', 'l', 's', 'e']
      return .boolean false
    | some '"' =>
      let _ ← next
      return .string (← string)
    | some '[' =>
      let _ ← next
      if depth ≤ 1 then failure
      skipSpace
      if (← peek) = some ']' then
        let _ ← next
        return .array []
      return .array (← items fuel (depth - 1))
    | some '\x7b' =>
      let _ ← next
      if depth ≤ 1 then failure
      skipSpace
      if (← peek) = some '\x7d' then
        let _ ← next
        return .object []
      return .object (← entries fuel (depth - 1))
    | some _ => return .number (← number)

/-- The items of an array, of which there is at least one, and its closing bracket. -/
def items : Nat → (depth : Nat) → Reader (List Draft)
  | 0, _ => failure
  | fuel + 1, depth => do
    let d ← document fuel depth
    skipSpace
    match ← next with
    | ',' => return d :: (← items fuel depth)
    | ']' => return [d]
    | _ => failure

/-- The entries of an object, of which there is at least one, and its closing brace. -/
def entries : Nat → (depth : Nat) → Reader (List (List Nat × Draft))
  | 0, _ => failure
  | fuel + 1, depth => do
    skipSpace
    expect ['"']
    let name ← string
    skipSpace
    expect [':']
    let d ← document fuel depth
    skipSpace
    match ← next with
    | ',' => return (name, d) :: (← entries fuel depth)
    | '\x7d' => return [(name, d)]
    | _ => failure

end

end Reader

/-- The draft of a text in which fewer than `depth` levels of arrays and objects are open at a
time. -/
def draft? (depth : Nat) (text : String) : Option Draft :=
  let cs := text.toList
  match Reader.document (2 * cs.length + 2) depth cs with
  | some (d, rest) => if rest.all Reader.isSpace then some d else none
  | none => none

/-! ### From drafts to documents -/

def isHighUnit (n : Nat) : Bool := 0xD800 ≤ n && n < 0xDC00

def isLowUnit (n : Nat) : Bool := 0xDC00 ≤ n && n < 0xE000

/-- The characters of the codes of a string; two 16-bit units that make a pair are one character, and
any other of those units is none. -/
def charsOfCodes? : List Nat → Option (List Char)
  | [] => some []
  | high :: low :: rest =>
    if isHighUnit high && isLowUnit low then do
      let c ← charOf? (0x10000 + (high - 0xD800) * 0x400 + (low - 0xDC00))
      return c :: (← charsOfCodes? rest)
    else do
      let c ← charOf? high
      return c :: (← charsOfCodes? (low :: rest))
  | [n] => do return [← charOf? n]

/-- The text of the codes of a string. -/
def textOfCodes? (codes : List Nat) : Option String := (charsOfCodes? codes).map String.ofList

namespace Draft

mutual

/-- The document of a draft, if all of its strings and numbers are some.  Of the entries of one name
the last one counts. -/
def finish? : Draft → Option Json
  | null => some .null
  | boolean b => some (.boolean b)
  | number n => n.map .number
  | string codes => (textOfCodes? codes).map .string
  | array items => (finishItems? items).map .array
  | object entries => (finishEntries? entries).map fun es => .object (Entries.sorted es)

def finishItems? : List Draft → Option (List Json)
  | [] => some []
  | d :: ds => do return (← d.finish?) :: (← finishItems? ds)

def finishEntries? : List (List Nat × Draft) → Option (List (String × Json))
  | [] => some []
  | (name, d) :: rest => do return (← textOfCodes? name, ← d.finish?) :: (← finishEntries? rest)

end

end Draft

/-- The number of levels of arrays and objects that may not be reached. -/
def depthBound : Nat := 128

/-- The document a text stands for. -/
def parse? (text : String) : Option Json := (draft? depthBound text).bind Draft.finish?

end Json
end ExprLang
