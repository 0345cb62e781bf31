import ExprLang.Text.Additions

/-!
# Quoted text

Text between double quotes in which every character can be seen: what has no shape of its own stands
as an escape.

## Main definitions

* `isPrintable` — the characters that have a shape of their own.
* `quoted` — a text between quotes.
-/

namespace ExprLang

/-- Whether a character can be shown as it is. -/
def isPrintable (c : Char) : Bool :=
  c == ' ' || !(CharSet.invisible.contains c || CharSet.extenders.contains c)

/-- A character as it stands between quotes; one that cannot be shown is told by its number. -/
def quotedChar (c : Char) : List Char :=
  match c with
  | '\x00' => ['\\', '0']
  | '\t' => ['\\', 't']
  | '\r' => ['\\', 'r']
  | '\n' => ['\\', 'n']
  | '\\' => ['\\', '\\']
  | '"' => ['\\', '"']
  | c => if isPrintable c then [c] else ['\\', 'u', '\x7b'] ++ Nat.toDigits 16 c.toNat ++ ['\x7d']

/-- A text between double quotes. -/
def quoted (s : String) : String := String.ofList ('"' :: (s.toList.flatMap quotedChar ++ ['"']))

end ExprLang
