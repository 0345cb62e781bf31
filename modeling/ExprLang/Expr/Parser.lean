import ExprLang.Token.Scan
import ExprLang.Expr
import ExprLang.Text.Escape
import ExprLang.Number.Decimal.Reading

/-!
# Reading expressions

A recursive descent over the tokens of a text.  Operators are read by precedence climbing: an
operand, then as many operators of at least the required level as follow, each with a right operand
of the next stronger level, so that chains lean to the left.

The tree may not become too deep.  A counter says how many levels are open; a nested expression, the
operand of a prefix operator and every further link of a chain of operators or of member accesses
open one, and close it again when they are read.

The grammar does not say how the counter is kept.  It is written once, for every way to do so, and
`parse` reads in the plainest one, in which each level is closed where it was opened.

## Main definitions

* `Parser` — reading with the tokens ahead and the level counter as state.
* `nested` — reading one level deeper.
* `LevelReader` — a way to read, with all that it may do about levels, chains and calls.
* `expression`, `operators`, `unary`, `primary`, `members`, `elements` — the grammar.
* `parse` — the expression a text stands for.

## References

`SPEC_FULL.md`, 10.1; the reference's `parse_expression`, `parse_operators`, `parse_unary`,
`parse_primary`, `parse_list_items`, `parse_arguments` and `parse_postfix_chain`.
-/

namespace ExprLang

/-- The largest number of levels that may be open. -/
def maxDepth : Nat := 128

/-- The tokens not yet consumed, and the number of open levels. -/
structure ParserState where
  ahead : List Lexeme
  depth : Nat
  deriving Repr

/-- Why reading stops early. -/
inductive Stop
  | error (e : ParseError)
  /-- The bound on the recursion is used up; the bound of `parse` is large enough for its text. -/
  | outOfFuel
  deriving Repr

/-- A reader of tokens.  The state is there after an error as well. -/
abbrev Parser := EStateM Stop ParserState

/-! ### Single tokens

`src` holds all tokens of the text; a reader needs it for what lies behind the last of them. -/

/-- The next token, if there is one. -/
def peek : Parser (Option Token) := fun s => .ok (s.ahead.head?.map Lexeme.token) s

/-- The tokens that are left. -/
def ahead : Parser (List Lexeme) := fun s => .ok s.ahead s

/-- Consumes the next token.  The one behind it comes into view by that, so if the text cannot be
read any further this is where it is noticed. -/
def advance (src : Lexemes) : Parser Unit := fun s =>
  match s.ahead with
  | [] => .ok () s
  | [_] =>
    match src.failure with
    | some e => .error (.error e) s
    | none => .ok () { s with ahead := [] }
  | _ :: rest => .ok () { s with ahead := rest }

/-- Fails because the next token, or the end, cannot stand here. -/
def unexpected {α : Type} (expected : Expectation) : Parser α := fun s =>
  match s.ahead with
  | [] => .error (.error (.unexpectedEnd expected)) s
  | l :: _ => .error (.error (.unexpectedToken l.token expected l.start)) s

/-- Consumes the given token. -/
def expect (src : Lexemes) (t : Token) : Parser Unit := do
  if (← peek) = some t then advance src else unexpected (.token t)

/-- Reads one level deeper.  The level is closed again however reading ends. -/
def nested {α : Type} (src : Lexemes) (p : Parser α) : Parser α := fun s =>
  if s.depth < maxDepth then
    match p { s with depth := s.depth + 1 } with
    | .ok a s' => .ok a { s' with depth := s'.depth - 1 }
    | .error e s' => .error e { s' with depth := s'.depth - 1 }
  else
    let position := (s.ahead.head?.map Lexeme.stop).getD src.stop
    .error (.error (.tooDeeplyNested maxDepth position)) s

/-- Consumes a name after a dot. -/
def memberName (src : Lexemes) : Parser String := do
  match ← peek with
  | some (.identifier name) => advance src; pure name
  | _ => unexpected .memberName

/-- The expression that a single token is, if it is one: a literal or a name. -/
def atom? (l : Lexeme) : Option (Except ParseError Expr) :=
  match l.token with
  | .integer n => some (.ok (.literal (.integer n)))
  | .decimal digits =>
    some <| match Decimal.read? digits.toList with
      | some d => .ok (.literal (.decimal d))
      | none => .error (.invalidNumber digits l.start)
  | .string body =>
    some <| match unescape body.toList with
      | .ok cs => .ok (.literal (.string (String.ofList cs)))
      | .error escape => .error (.invalidEscape (String.ofList escape) l.start)
  | .boolean b => some (.ok (.literal (.boolean b)))
  | .null => some (.ok (.literal .null))
  | .identifier name => some (.ok (.identifier name))
  | .binding name => some (.ok (.binding name))
  | .component name => some (.ok (.component name))
  | _ => none

/-! ### The grammar

How levels are opened is left open here.  They can be closed again one by one, or be counted with one
number and taken off it together; and the calls can be taken note of, or not. -/

/-- The calls that reading an expression consists of. -/
inductive Levels.Routine
  | expression
  /-- What an expression does once the gate has let it in. -/
  | body
  | unary
  /-- The same for the operand of a prefix operator. -/
  | operand
  | primary
  | members
  | items
  | arguments
  deriving DecidableEq, Repr

/-- A way to read expressions. -/
class LevelReader (m : Type → Type) where
  /-- Reads tokens and opens no level. -/
  token {α : Type} : Parser α → m α
  /-- Calls a routine. -/
  call {α : Type} : Levels.Routine → m α → m α
  /-- Reads one level deeper. -/
  within {α : Type} (src : Lexemes) : m α → m α
  /-- Reads a chain from its beginning to its end. -/
  chain {α : Type} : m α → m α
  /-- Reads what is behind one more link of the chain. -/
  behindLink {α : Type} (src : Lexemes) : m α → m α

open LevelReader

section Grammar

variable {m : Type → Type} [Monad m] [LevelReader m]

/-! Every call takes one off the fuel.  Between two calls of one function a token is consumed, so a
multiple of the number of tokens bounds the recursion. -/

mutual

/-- An expression whose operators are of the level `least` or a stronger one. -/
def expression (src : Lexemes) : Nat → Precedence → m Expr
  | 0, _ => token (throw .outOfFuel)
  | fuel + 1, least => call .expression <| within src <| call .body <| chain do
    let left ← call .unary (unary src fuel)
    operators src fuel least left

/-- The operators that follow the operand `left`. -/
def operators (src : Lexemes) : Nat → Precedence → Expr → m Expr
  | 0, _, _ => token (throw .outOfFuel)
  | fuel + 1, least, left => do
    match ← token peek with
    | some .question =>
      if least.admits .ternary then
        token (advance src)
        behindLink src do
          let whenTrue ← expression src fuel .ternary
          token (expect src .colon)
          let whenFalse ← expression src fuel .ternary
          operators src fuel least (.conditional left whenTrue whenFalse)
      else pure left
    | some .elvis =>
      if least.admits .ternary then
        token (advance src)
        behindLink src do
          let fallback ← expression src fuel .ternary
          operators src fuel least (.elvis left fallback)
      else pure left
    | some (.operator op) =>
      if least.admits op.precedence then
        token (advance src)
        behindLink src do
          let right ← expression src fuel op.precedence.next
          operators src fuel least (.binary op left right)
      else pure left
    | _ => pure left

/-- An operand with the operators before it. -/
def unary (src : Lexemes) : Nat → m Expr
  | 0 => token (throw .outOfFuel)
  | fuel + 1 => do
    match ← token peek with
    | some (.operator .subtract) =>
      token (advance src)
      return .unary .negate (← within src (call .operand (unary src fuel)))
    | some .not =>
      token (advance src)
      return .unary .not (← within src (call .operand (unary src fuel)))
    | _ =>
      let base ← call .primary (primary src fuel)
      call .members (chain (members src fuel base))

/-- A literal, a name, an expression in parentheses or a list in braces. -/
def primary (src : Lexemes) : Nat → m Expr
  | 0 => token (throw .outOfFuel)
  | fuel + 1 => do
    match ← token ahead with
    | [] => token (unexpected .operand)
    | l :: _ =>
      token (advance src)
      match atom? l, l.token with
      | some (.ok e), _ => pure e
      | some (.error e), _ => token (throw (.error e))
      | none, .leftParen =>
        let e ← expression src fuel .ternary
        token (expect src .rightParen)
        pure e
      | none, .leftBrace => return .list (← call .items (elements src fuel .rightBrace))
      | none, t => token (throw (.error (.unexpectedToken t .operand l.start)))

/-- The expressions up to the token that closes them, with commas between. -/
def elements (src : Lexemes) : Nat → Token → m (List Expr)
  | 0, _ => token (throw .outOfFuel)
  | fuel + 1, closer => do
    if (← token peek) = some closer then
      token (advance src)
      pure []
    else moreElements src fuel closer

/-- At least one expression, up to the token that closes them. -/
def moreElements (src : Lexemes) : Nat → Token → m (List Expr)
  | 0, _ => token (throw .outOfFuel)
  | fuel + 1, closer => do
    let e ← expression src fuel .ternary
    let next ← token peek
    if next = some .comma then
      token (advance src)
      return e :: (← moreElements src fuel closer)
    else if next = some closer then
      token (advance src)
      pure [e]
    else token (unexpected (.commaOr closer))

/-- The member accesses, calls and indexes that follow `base`. -/
def members (src : Lexemes) : Nat → Expr → m Expr
  | 0, _ => token (throw .outOfFuel)
  | fuel + 1, base => do
    let next ← token peek
    if next = some .dot ∨ next = some .safeDot then
      let nullSafe : Bool := next = some .safeDot
      token (advance src)
      behindLink src do
        let name ← token (memberName src)
        if (← token peek) = some .leftParen then
          token (advance src)
          let arguments ← call .arguments (elements src fuel .rightParen)
          members src fuel (.call base name arguments nullSafe)
        else members src fuel (.property base name nullSafe)
    else if next = some .leftBracket then
      token (advance src)
      behindLink src do
        let position ← expression src fuel .ternary
        token (expect src .rightBracket)
        members src fuel (.index base position)
    else pure base

end

/-- An expression with nothing behind it. -/
def wholeExpression (src : Lexemes) (fuel : Nat) : m Expr := do
  let e ← expression src fuel .ternary
  match ← token ahead with
  | [] => pure e
  | _ => token (unexpected .endOfExpression)

end Grammar

/-- Every level is closed where it was opened, and nobody takes note of the calls. -/
instance : LevelReader Parser where
  token p := p
  call _ p := p
  within := nested
  chain p := p
  behindLink := nested

namespace Parser

/-- What the ways to read are to a `Parser`. -/
theorem plain :
    (∀ {α : Type} (p : Parser α), token p = p) ∧
      (∀ {α : Type} (r : Levels.Routine) (p : Parser α), call r p = p) ∧
      (∀ {α : Type} (src : Lexemes) (p : Parser α), within src p = nested src p) ∧
      (∀ {α : Type} (p : Parser α), chain p = p) ∧
      ∀ {α : Type} (src : Lexemes) (p : Parser α), behindLink src p = nested src p :=
  ⟨fun _ => rfl, fun _ _ => rfl, fun _ _ => rfl, fun _ => rfl, fun _ _ => rfl⟩

end Parser

/-! ### Whole texts -/

/-- A bound on the calls that reading a number of tokens can nest: a token is consumed at the latest
in every fifth of them. -/
def fuelFor (tokens : Nat) : Nat := 5 * (tokens + 2)

/-- The expression that the tokens of a text make. -/
def parseLexemes (src : Lexemes) : Except ParseError Expr :=
  match src.lexemes, src.failure with
  | [], some e => .error e
  | _, _ =>
    match (wholeExpression src (fuelFor src.lexemes.length) : Parser Expr).run ⟨src.lexemes, 0⟩ with
    | .ok e _ => .ok e
    | .error (.error e) _ => .error e
    | .error .outOfFuel _ => .error (.tooDeeplyNested maxDepth src.stop)

/-- The expression a text stands for; a text of blanks alone stands for none. -/
def parse (text : String) : Except ParseError Expr :=
  if isBlankText text then .error .emptyExpression else parseLexemes (lexemesOf text)

end ExprLang
