import ExprLang.Operator
import ExprLang.Number.Integer

/-!
# Tokens

The tokens an expression is read as, and the text each is shown as.

## Main definitions

* `Token`, `Token.text` — the tokens and their texts.
* `Lexeme` — a token with the bytes of the text it was read from.

## References

`SPEC_FULL.md`, 10.1; the reference's `Token` and `Spanned`, with `keyword`.
-/

namespace ExprLang

/-- The tokens of the language.  The minus sign is one operator token, whether it comes to stand
between two operands or before one. -/
inductive Token
  | integer (n : Int64)
  /-- A number with a point, as it is written. -/
  | decimal (digits : String)
  /-- What stands between the quotes, escapes included. -/
  | string (body : String)
  | boolean (b : Bool)
  | null
  | identifier (name : String)
  /-- A name after `#`, which stands for a binding only. -/
  | binding (name : String)
  /-- A name after `@`, which stands for a component of the registry only. -/
  | component (name : String)
  | operator (op : BinaryOperator)
  | not
  | question
  | colon
  | elvis
  | safeDot
  | dot
  | comma
  | leftParen
  | rightParen
  | leftBracket
  | rightBracket
  | leftBrace
  | rightBrace
  deriving DecidableEq, Repr

/-- The text a token is shown as; a string stands between single quotes. -/
def Token.text : Token → String
  | integer n => Integer.text n
  | decimal digits => digits
  | string body => "'" ++ body ++ "'"
  | boolean b => if b then "true" else "false"
  | null => "null"
  | identifier name => name
  | binding name => "#" ++ name
  | component name => "@" ++ name
  | operator op => op.symbol
  | not => "not"
  | question => "?"
  | colon => ":"
  | elvis => "?:"
  | safeDot => "?."
  | dot => "."
  | comma => ","
  | leftParen => "("
  | rightParen => ")"
  | leftBracket => "["
  | rightBracket => "]"
  | leftBrace => "\x7b"
  | rightBrace => "\x7d"

/-- A token and where it stands: its bytes are those from `start` up to `stop`. -/
structure Lexeme where
  token : Token
  start : Nat
  stop : Nat
  deriving DecidableEq, Repr

end ExprLang
