import ExprLang.Text.CodePoint

/-!
# Escapes

Inside a string literal a backslash gives the next character another meaning: `\n`, `\t` and `\r`
stand for line feed, tab and carriage return, a backslash or quote for itself, and `\u` with four
characters for the code point they number.

## Main definitions

* `unescape` — the characters a literal's body stands for, or its first undefined escape.

## References

`SPEC_FULL.md`, 10.1, on strings; the reference's `process_string_escapes`.
-/

namespace ExprLang

/-- The value of a hexadecimal digit. -/
def hexDigit? (c : Char) : Option Nat :=
  if c.isDigit then some (c.toNat - '0'.toNat)
  else if 'a' ≤ c ∧ c ≤ 'f' then some (c.toNat - 'a'.toNat + 10)
  else if 'A' ≤ c ∧ c ≤ 'F' then some (c.toNat - 'A'.toNat + 10)
  else none

/-- The number that hexadecimal digits stand for. -/
def readHex? (cs : List Char) : Option Nat :=
  if cs.isEmpty then none
  else cs.foldl (fun acc c => acc.bind fun n => (hexDigit? c).map (16 * n + ·)) (some 0)

/-- The character numbered by the four characters of a `\u` escape: hexadecimal digits, of which the
first may be a plus sign instead. -/
def charOfHex? : List Char → Option Char
  | '+' :: ds => (readHex? ds).bind charOf?
  | ds => (readHex? ds).bind charOf?

/-- The character that a one-letter escape stands for. -/
def simpleEscape? : Char → Option Char
  | 'n' => some '\n'
  | 't' => some '\t'
  | 'r' => some '\r'
  | '\\' => some '\\'
  | '\'' => some '\''
  | '"' => some '"'
  | _ => none

/-- The characters a literal's body stands for; the error is the first undefined escape. -/
def unescape : List Char → Except (List Char) (List Char)
  | [] => .ok []
  | '\\' :: 'u' :: a :: b :: c :: d :: rest =>
    match charOfHex? [a, b, c, d] with
    | some ch => (unescape rest).map (ch :: ·)
    | none => .error ['\\', 'u', a, b, c, d]
  | '\\' :: 'u' :: rest => .error ('\\' :: 'u' :: rest)
  | '\\' :: c :: rest =>
    match simpleEscape? c with
    | some ch => (unescape rest).map (ch :: ·)
    | none => .error ['\\', c]
  | ['\\'] => .error ['\\']
  | c :: rest => (unescape rest).map (c :: ·)

end ExprLang
