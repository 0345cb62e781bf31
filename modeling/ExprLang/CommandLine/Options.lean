import ExprLang.CommandLine.Arguments

/-!
# Commands

What the program can be told to do.

## Main definitions

* `Command`, `EvalOptions` — the commands.
* `Command.read` — the command that arguments give.

## References

`SPEC_FULL.md`, 10.10; the reference's `Cli`, `Commands`, `EvalOptions` and `ResultType`.
-/

namespace ExprLang

/-- The types that the result of an evaluation can be asked for as. -/
inductive ResultType
  | bool
  | int
  | decimal
  | string
  | json
  deriving DecidableEq, Repr

namespace ResultType

def ofName? : String → Option ResultType
  | "bool" => some bool
  | "int" => some int
  | "decimal" => some decimal
  | "string" => some string
  | "json" => some json
  | _ => none

end ResultType

/-- What is said about an evaluation. -/
structure EvalOptions where
  expression : String
  /-- Bindings of the form `NAME=JSON`. -/
  vars : List String
  /-- The file that holds further bindings. -/
  bindings : Option String
  resultType : ResultType
  /-- What to print in place of an empty result. -/
  default : Option String
  /-- Whether JSON is printed over several lines. -/
  pretty : Bool
  /-- Whether nothing is said about an empty result. -/
  quiet : Bool
  /-- Whether the counts of the cache are printed. -/
  stats : Bool
  deriving DecidableEq, Repr

/-- What the program is told to do. -/
inductive Task
  | eval (options : EvalOptions)
  /-- Reads an expression and lists the names it depends on. -/
  | check (expression : String)
  deriving DecidableEq, Repr

/-- A task, with the file that holds the configuration. -/
structure Command where
  config : Option String
  task : Task
  deriving DecidableEq, Repr

namespace Command

/-! ### The options -/

/-- A file has a name. -/
def fileOption (long : String) (short : Char) : OptionSpec :=
  ⟨long, some short, some fun s => !s.isEmpty, false, none⟩

def flag (long : String) (short : Option Char) : OptionSpec := ⟨long, short, none, false, none⟩

/-- The options that every command knows. -/
def commonOptions : List OptionSpec :=
  [fileOption "config" 'c', ⟨"help", some 'h', none, false, some .help⟩]

/-- The options that stand before the name of a command. -/
def outerOptions : List OptionSpec :=
  ⟨"version", some 'V', none, false, some .version⟩ :: commonOptions

def evalOptions : List OptionSpec :=
  [⟨"var", none, some fun _ => true, true, none⟩, fileOption "bindings" 'b',
    ⟨"type", some 't', some fun s => (ResultType.ofName? s).isSome, false, none⟩,
    ⟨"default", some 'd', some fun _ => true, false, none⟩, flag "pretty" (some 'p'),
    flag "quiet" (some 'q'), flag "stats" none] ++ commonOptions

/-! ### Reading -/

/-- The only operand of a command. -/
def singleOperand (a : Arguments) : Except Halt String :=
  match a.operands with
  | [operand] => .ok operand
  | _ => .error .usage

/-- The task of a command by name, and the file with its configuration. -/
def readTask (name : String) (args : List String) : Except Halt (Task × Option String) := do
  match name with
  | "eval" =>
    let a ← Arguments.scan evalOptions args
    let options : EvalOptions :=
      { expression := ← singleOperand a
        vars := a.values "var"
        bindings := a.value? "bindings"
        resultType := ((a.value? "type").bind ResultType.ofName?).getD .json
        default := a.value? "default"
        pretty := a.has "pretty"
        quiet := a.has "quiet"
        stats := a.has "stats" }
    return (.eval options, a.value? "config")
  | "check" =>
    let a ← Arguments.scan commonOptions args
    return (.check (← singleOperand a), a.value? "config")
  | "help" => throw .help
  | _ => throw .usage

/-- The command that arguments give.  The configuration may be named before the name of the command
or behind it, where it counts for more. -/
def read (args : List String) : Except Halt Command := do
  match ← Arguments.scanOptions outerOptions args.length [] args with
  | (found, name :: rest) =>
    let (task, config) ← readTask name rest
    return ⟨config.or (found.lookup "config"), task⟩
  | (_, []) => throw .usage

end Command
end ExprLang
