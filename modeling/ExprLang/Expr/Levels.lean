import ExprLang.Expr.Parser

/-!
# Keeping count of the levels

The counter of open levels is one number, which the routines of the reader raise and lower themselves.  An
expression raises it at a gate, where it is turned away if too many levels are open, and lowers it
before it returns; a prefix operator does so around its operand.  The links of a chain raise it one by
one while the chain goes on, are counted on the side, and are taken off the counter together where the
chain ends.  All of this has to be undone however a routine returns, with a result or with an error.

This is another way to read by the grammar, with the counter as it is kept.  Everything that happens to
it, and every call and return, is recorded together with the state at that moment.

## Main definitions

* `Levels.Event`, `Levels.Moment` — what is recorded.
* `Levels.Reader` — reading with the counter, the links of the chain and the record as state.
* `Levels.call`, `Levels.within`, `Levels.chain`, `Levels.behindLink` — the ways in which the counter
  is used.
* `Levels.read` — the expression that the tokens of a text make.

## References

`SPEC_FULL.md`, 10.1; the reference's `enter`, `leave`, `deepen`, `parse_expression_inner` and
`parse_postfix`.  The record is an addition.
-/

namespace ExprLang
namespace Levels

/-! ### What is recorded -/

/-- What can happen. -/
inductive Event
  | called (r : Routine)
  /-- With a result or with an error. -/
  | returned (r : Routine) (ok : Bool)
  /-- The counter is raised at the gate. -/
  | entered
  /-- The counter is lowered again. -/
  | left
  /-- The counter is raised by a link of a chain. -/
  | linked
  /-- The counter is lowered by the links of a chain. -/
  | unlinked (links : Nat)
  deriving DecidableEq, Repr

/-- Something that happens, and the state right after it. -/
structure Moment where
  event : Event
  state : ParserState

/-! ### States -/

structure State extends ParserState where
  /-- The links of the innermost chain. -/
  links : Nat
  /-- What has happened up to now. -/
  log : List Moment

namespace State

def record (t : State) (e : Event) : State := { t with log := t.log ++ [⟨e, t.toParserState⟩] }

def raise (t : State) : State := { t with depth := t.depth + 1 }

def lower (t : State) (levels : Nat) : State := { t with depth := t.depth - levels }

def withLinks (t : State) (links : Nat) : State := { t with links := links }

/-- The counter is raised at the gate. -/
def enter (t : State) : State := t.raise.record .entered

/-- The counter is lowered again. -/
def leave (t : State) : State := (t.lower 1).record .left

/-- The counter is raised by one more link. -/
def link (t : State) : State := (t.raise.withLinks (t.links + 1)).record .linked

/-- The links of a chain are taken off, and those of the chain around it count again. -/
def unlink (t : State) (outer : Nat) : State :=
  ((t.lower t.links).withLinks outer).record (.unlinked t.links)

variable (t : State) (e : Event) (n : Nat)

@[simp] theorem toParserState_record : (t.record e).toParserState = t.toParserState := rfl

@[simp] theorem links_record : (t.record e).links = t.links := rfl

@[simp] theorem log_record : (t.record e).log = t.log ++ [⟨e, t.toParserState⟩] := rfl

@[simp] theorem toParserState_withLinks : (t.withLinks n).toParserState = t.toParserState := rfl

@[simp] theorem links_withLinks : (t.withLinks n).links = n := rfl

@[simp] theorem log_withLinks : (t.withLinks n).log = t.log := rfl

@[simp] theorem ahead_raise : t.raise.ahead = t.ahead := rfl

@[simp] theorem depth_raise : t.raise.depth = t.depth + 1 := rfl

@[simp] theorem links_raise : t.raise.links = t.links := rfl

@[simp] theorem log_raise : t.raise.log = t.log := rfl

@[simp] theorem ahead_lower : (t.lower n).ahead = t.ahead := rfl

@[simp] theorem depth_lower : (t.lower n).depth = t.depth - n := rfl

@[simp] theorem links_lower : (t.lower n).links = t.links := rfl

@[simp] theorem log_lower : (t.lower n).log = t.log := rfl

end State

/-- A reader that keeps count.  The state is there after an error as well. -/
abbrev Reader := EStateM Stop State

/-- A reader that knows nothing of chains and of the record. -/
def lift {α : Type} (p : Parser α) : Reader α := fun t =>
  match p t.toParserState with
  | .ok a s => .ok a { t with toParserState := s }
  | .error e s => .error e { t with toParserState := s }

/-! ### The counter -/

/-- Does something to the state after reading, however reading ends; whether it has ended with a
result is known. -/
def lastly {α : Type} (f : Bool → State → State) (p : Reader α) : Reader α := fun t =>
  match p t with
  | .ok a t => .ok a (f true t)
  | .error e t => .error e (f false t)

/-- Calls a routine. -/
def call {α : Type} (r : Routine) (p : Reader α) : Reader α := fun t =>
  lastly (fun ok t => t.record (.returned r ok)) p (t.record (.called r))

/-- Raises the counter in one of the two ways, unless too many levels are open. -/
def gate (src : Lexemes) (raise : State → State) : Reader Unit := fun t =>
  if t.depth < maxDepth then .ok () (raise t)
  else .error (.error (.tooDeeplyNested maxDepth ((t.ahead.head?.map Lexeme.stop).getD src.stop))) t

/-- Reads with one level more. -/
def within {α : Type} (src : Lexemes) (p : Reader α) : Reader α := do
  gate src State.enter
  lastly (fun _ => State.leave) p

/-- Reads a chain from its beginning to its end. -/
def chain {α : Type} (p : Reader α) : Reader α := fun t =>
  lastly (fun _ t' => t'.unlink t.links) p (t.withLinks 0)

/-- Reads on with one more link in the chain. -/
def behindLink {α : Type} (src : Lexemes) (p : Reader α) : Reader α := do
  gate src State.link
  p

instance : LevelReader Reader := ⟨lift, call, within, chain, behindLink⟩

/-! ### Whole texts -/

/-- How reading the tokens of a text ends, and what is left behind. -/
def read (src : Lexemes) : EStateM.Result Stop State Expr :=
  (wholeExpression src (fuelFor src.lexemes.length) : Reader Expr) ⟨⟨src.lexemes, 0⟩, 0, []⟩

/-- The expression a text stands for, and what happens while it is read. -/
def parse (text : String) : Except ParseError Expr × List Moment :=
  if isBlankText text then (.error .emptyExpression, [])
  else
    let src := lexemesOf text
    match src.lexemes, src.failure with
    | [], some e => (.error e, [])
    | _, _ =>
      match read src with
      | .ok e t => (.ok e, t.log)
      | .error (.error e) t => (.error e, t.log)
      | .error .outOfFuel t => (.error (.tooDeeplyNested maxDepth src.stop), t.log)

end Levels
end ExprLang
