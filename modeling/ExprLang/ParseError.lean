import ExprLang.Token

/-!
# Errors of reading

Why a text is no expression, where, and the message that says so.

## Main definitions

* `Expectation` — what the grammar allows at a place.
* `ParseError`, `ParseError.message`, `ParseError.position?` — the errors.

## References

`SPEC_FULL.md`, 7 and 10.8; the reference's `ParseError`, with `position`.
-/

namespace ExprLang

/-- What could have stood where something else was found. -/
inductive Expectation
  | operand
  | memberName
  | token (t : Token)
  /-- A comma or the token that closes the list. -/
  | commaOr (closer : Token)
  | endOfExpression
  deriving DecidableEq, Repr

def Expectation.text : Expectation → String
  | operand => "operand"
  | memberName => "property or method name"
  | token t => "'" ++ t.text ++ "'"
  | commaOr closer => "',' or '" ++ closer.text ++ "'"
  | endOfExpression => "end of expression"

/-- The ways in which a text can fail to be an expression.  Positions count bytes. -/
inductive ParseError
  | emptyExpression
  | unexpectedToken (found : Token) (expected : Expectation) (position : Nat)
  | unexpectedEnd (expected : Expectation)
  | unexpectedCharacter (c : Char) (position : Nat)
  /-- A number that its type has no room for. -/
  | invalidNumber (literal : String) (position : Nat)
  | unterminatedString (position : Nat)
  /-- An escape that is not defined, and the position of the string it stands in. -/
  | invalidEscape (sequence : String) (position : Nat)
  | tooDeeplyNested (limit position : Nat)
  deriving DecidableEq, Repr

/-- The place an error points at, if it points at one. -/
def ParseError.position? : ParseError → Option Nat
  | emptyExpression | unexpectedEnd _ => none
  | unexpectedToken _ _ p | unexpectedCharacter _ p | invalidNumber _ p | unterminatedString p
  | invalidEscape _ p | tooDeeplyNested _ p => some p

def ParseError.message : ParseError → String
  | emptyExpression => "Empty expression"
  | unexpectedToken found expected p =>
    "Unexpected token '" ++ found.text ++ "' at position " ++ intText p ++ ", expected " ++
      expected.text
  | unexpectedEnd expected => "Unexpected end of expression, expected " ++ expected.text
  | unexpectedCharacter c p =>
    "Unexpected character '" ++ c.toString ++ "' at position " ++ intText p
  | invalidNumber literal p =>
    "Invalid number literal '" ++ literal ++ "' at position " ++ intText p
  | unterminatedString p => "Unterminated string literal starting at position " ++ intText p
  | invalidEscape sequence p =>
    "Invalid escape sequence '" ++ sequence ++ "' at position " ++ intText p
  | tooDeeplyNested limit p =>
    "Expression nests deeper than " ++ intText limit ++ " levels at position " ++ intText p

end ExprLang
