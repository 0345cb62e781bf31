import ExprLang.Entries
import ExprLang.Number.Shortest

/-!
# JSON documents

Documents of the JSON format and their written forms.

## Main definitions

* `Json`, `Json.Number` — documents; numbers are whole, or doubles.
* `Json.compact`, `Json.pretty` — a document on one line, or indented over several.

## References

`SPEC_FULL.md`, 10.2; the documents that the reference's `to_json` makes, and their texts.
-/

namespace ExprLang

/-- A number: whole if it is written without a point and an exponent and fits 64 bits, with a sign or
without one, and otherwise a double. -/
inductive Json.Number
  | whole (n : Int)
  | double (x : Float)
  deriving DecidableEq

/-- A JSON document.  The entries of an object are in ascending order of their names. -/
inductive Json
  | null
  | boolean (b : Bool)
  | number (n : Json.Number)
  | string (s : String)
  | array (items : List Json)
  | object (entries : List (String × Json))

namespace Json

/-! ### Writing -/

def Number.text : Number → String
  | whole n => intText n
  | double x => Double.text x

/-- A hexadecimal digit in small letters. -/
def hexDigit (n : Nat) : Char := (Nat.toDigits 16 (n % 16)).headD '0'

/-- A character as it stands inside a JSON string. -/
def escapeChar (c : Char) : List Char :=
  match c with
  | '"' => ['\\', '"']
  | '\\' => ['\\', '\\']
  | '\n' => ['\\', 'n']
  | '\r' => ['\\', 'r']
  | '\t' => ['\\', 't']
  | '\x08' => ['\\', 'b']
  | '\x0c' => ['\\', 'f']
  | c => if c.toNat < 0x20 then ['\\', 'u', '0', '0', hexDigit (c.toNat / 16), hexDigit c.toNat] else [c]

/-- A text between quotes. -/
def quote (s : String) : String :=
  String.ofList ('"' :: (s.toList.flatMap escapeChar ++ ['"']))

mutual

/-- The document on one line, without any space. -/
def compact : Json → String
  | null => "null"
  | boolean b => if b then "true" else "false"
  | number n => n.text
  | string s => quote s
  | array items => "[" ++ ",".intercalate (compactItems items) ++ "]"
  | object entries => "\x7b" ++ ",".intercalate (compactEntries entries) ++ "\x7d"

def compactItems : List Json → List String
  | [] => []
  | j :: js => j.compact :: compactItems js

def compactEntries : List (String × Json) → List String
  | [] => []
  | (k, j) :: rest => (quote k ++ ":" ++ j.compact) :: compactEntries rest

end

/-- The start of a new line, two spaces in for each of `depth` levels. -/
def newLine (depth : Nat) : String := String.ofList ('\n' :: List.replicate (2 * depth) ' ')

/-- Items on lines of their own between brackets; nothing stands between those of an empty list. -/
def onLines (depth : Nat) (opening closing : String) (items : List String) : String :=
  if items.isEmpty then opening ++ closing
  else
    opening ++ newLine (depth + 1) ++ ("," ++ newLine (depth + 1)).intercalate items ++
      newLine depth ++ closing

mutual

/-- The document over several lines, inside of `depth` levels. -/
def prettyAt (depth : Nat) : Json → String
  | null => "null"
  | boolean b => if b then "true" else "false"
  | number n => n.text
  | string s => quote s
  | array items => onLines depth "[" "]" (prettyItems (depth + 1) items)
  | object entries => onLines depth "\x7b" "\x7d" (prettyEntries (depth + 1) entries)

def prettyItems (depth : Nat) : List Json → List String
  | [] => []
  | j :: js => prettyAt depth j :: prettyItems depth js

def prettyEntries (depth : Nat) : List (String × Json) → List String
  | [] => []
  | (k, j) :: rest => (quote k ++ ": " ++ prettyAt depth j) :: prettyEntries depth rest

end

/-- The document over several lines, each level two spaces further in. -/
def pretty : Json → String := prettyAt 0

end Json
end ExprLang
