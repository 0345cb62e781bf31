import ExprLang.CommandLine.Options
import ExprLang.Resolver
import ExprLang.Value.Json
import ExprLang.Json.Parser

/-!
# The command line

What the program prints and how it ends.  An evaluation without a result is no failure; a command
fails if its files or bindings cannot be used, the expression cannot be compiled, or the default
is not of the type that is asked for.  A configuration by which more is to be kept than there is room
for makes the program crash before it does anything else.

## Main definitions

* `CommandError`, `CommandError.message` — the failures.
* `Report` — the outcome of a command line.
* `CommandLine.run` — the outcome of arguments, given a way to read files and the room that there is.

## References

`SPEC_FULL.md`, 10.10; the reference's `run`, `load_config`, `build_context`, `json_or_string`,
`handle_eval`, `resolve`, `resolve_display` and `handle_check`.
-/

namespace ExprLang

/-- The files that a command reads. -/
inductive FileRole
  | config
  | bindings
  deriving DecidableEq, Repr

def FileRole.text : FileRole → String
  | config => "config"
  | bindings => "bindings"

/-- Why a command fails. -/
inductive CommandError
  /-- A file that cannot be read, with the reason that the system gives. -/
  | unreadable (role : FileRole) (path reason : String)
  /-- A file that does not hold what it should. -/
  | malformed (role : FileRole) (path : String)
  | bindingsNotObject (path : String)
  | noEqualsSign (var : String)
  | request (cause : RequestError)
  | defaultMismatch (text : String) (cause : ConversionError)
  deriving DecidableEq, Repr

/-- The message of a failure, and behind it those of what caused it. -/
def CommandError.message : CommandError → String
  | unreadable role path reason =>
    "reading " ++ role.text ++ " file '" ++ path ++ "': " ++ reason
  | malformed role path => "parsing " ++ role.text ++ " file '" ++ path ++ "'"
  | bindingsNotObject path => "bindings file '" ++ path ++ "' must hold a JSON object"
  | noEqualsSign var => "--var expects NAME=JSON, got '" ++ var ++ "'"
  | request cause =>
    match cause with
    | .compile _ inner => cause.message ++ ": " ++ inner.message
    | .registry _ => cause.message
  | defaultMismatch text cause =>
    "--default '" ++ text ++ "' is not a valid " ++ cause.target ++ ": " ++ cause.message

/-- What a command prints, and its exit status. -/
structure Report where
  exitCode : Nat
  stdout : String
  stderr : String
  deriving DecidableEq, Repr

namespace CommandLine

/-! ### Bindings and configuration -/

/-- The value that a text gives: that of a JSON document, or else the text itself. -/
def jsonOrString (text : String) : Value :=
  match Json.parse? text with
  | some j => .ofJson j
  | none => .string text

/-- The binding of the form `NAME=JSON`. -/
def readVar (var : String) : Except CommandError (String × Value) :=
  let cs := var.toList
  match cs.dropWhile (· != '=') with
  | [] => .error (.noEqualsSign var)
  | _ :: value =>
    .ok (trim (String.ofList (cs.takeWhile (· != '='))), jsonOrString (String.ofList value))

/-- The bindings in the text of a file. -/
def readBindings (path text : String) : Except CommandError (List (String × Value)) :=
  match Json.parse? text with
  | none => .error (.malformed .bindings path)
  | some (.object entries) => .ok (Value.ofJsonEntries entries)
  | some _ => .error (.bindingsNotObject path)

/-- The configuration in the text of a file. -/
def readConfig (path text : String) : Except CommandError CacheConfig :=
  match CacheConfig.ofJson? text with
  | some c => .ok c
  | none => .error (.malformed .config path)

/-! ### Evaluating -/

/-- A part of a command that asks requests of the cache. -/
abbrev Job := ExceptT CommandError (StateM Cache)

/-- A request as a part of a command. -/
def Job.ofRequest {α : Type} (r : Request α) : Job α := fun cache =>
  match r cache with
  | (.ok a, cache) => (.ok a, cache)
  | (.error e, cache) => (.error (.request e), cache)

/-- The value of a text, or the fallback if there is one. -/
def resolve {α : Type} [Coercible α] (r : Resolver) (text : String) (fallback : Option α) :
    Job (Option α) :=
  Job.ofRequest <|
    match fallback with
    | some a => some <$> (r.resolveOrDefault (some text) (pure a : Id α) : Cache → Id _)
    | none => r.get text

/-- The default, read as a value of the type `α`. -/
def readDefault {α : Type} [Coercible α] (text : String) : Except CommandError α :=
  match Coercible.ofValue (.string text) with
  | .ok a => .ok a
  | .error e => .error (.defaultMismatch text e)

/-- The text of a result of the type `α`. -/
def resolveText {α : Type} [Coercible α] (render : α → String) (r : Resolver) (text : String)
    (default : Option String) : Job (Option String) := do
  let fallback ← (default.mapM readDefault : Except CommandError (Option α))
  return (← resolve r text fallback).map render

/-- The text of a result as JSON. -/
def resolveJson (pretty : Bool) (r : Resolver) (text : String) (default : Option String) :
    Job (Option String) := do
  let v ← resolve r text (default.map jsonOrString)
  return v.map fun v => if pretty then v.toJson.pretty else v.toJson.compact

/-- The text of the result that is asked for, if there is one.  The expression is compiled before
the default is looked at. -/
def evalResult (o : EvalOptions) (context : Context) : Job (Option String) := do
  let _ ← Job.ofRequest (Request.compile o.expression)
  let r := Resolver.new none context
  match o.resultType with
  | .bool => resolveText (fun b : Bool => Value.text (.boolean b)) r o.expression o.default
  | .int => resolveText Integer.text r o.expression o.default
  | .decimal => resolveText Decimal.text r o.expression o.default
  | .string => resolveText (fun s : String => s) r o.expression o.default
  | .json => resolveJson o.pretty r o.expression o.default

/-! ### Reports -/

/-- A text as a line. -/
def line (text : String) : String := text ++ "\n"

/-- The report of a failure. -/
def failed (e : CommandError) : Report := ⟨1, "", line ("Error: " ++ e.message)⟩

/-- The report of a crash.  What is printed about it, which is different each time, is left out. -/
def crashed : Report := ⟨101, "", ""⟩

/-- The report of an evaluation. -/
def evalReport (o : EvalOptions) (result : Option String) (stats : CacheStats) : Report :=
  let notice := if result.isNone && !o.quiet then line "(empty result)" else ""
  ⟨0, (result.map line).getD "", notice ++ if o.stats then line stats.text else ""⟩

/-- A reference as it is written. -/
def referenceText : Reference → String
  | .identifier name => name
  | .binding name => "#" ++ name
  | .component name => "@" ++ name

/-- The report of an expression that could be compiled. -/
def checkReport (c : Compiled) : Report :=
  let names := c.references.map referenceText
  let listing := if names.isEmpty then "" else line ("References: " ++ ", ".intercalate names)
  ⟨0, line "OK" ++ listing, ""⟩

/-- The name and version of the program. -/
def versionText : String := "expr-resolver 0.1.0"

/-- How the program is called. -/
def usageText : String :=
  "Usage: expr-resolver [-c FILE] eval EXPRESSION [--var NAME=JSON]... [-b FILE] [-t TYPE] " ++
    "[-d TEXT] [-p] [-q] [--stats]\n       expr-resolver [-c FILE] check EXPRESSION"

/-- The report of a command line that is not carried out. -/
def halted : Halt → Report
  | .usage => ⟨2, "", line usageText⟩
  | .version => ⟨0, line versionText, ""⟩
  | .help => ⟨0, line usageText, ""⟩

/-! ### Running -/

section Running

variable {m : Type → Type} [Monad m]

/-- The text of a file, given a way to read files. -/
def fileText (read : String → m (Except String String)) (role : FileRole) (path : String) :
    ExceptT CommandError m String := do
  match ← (read path : m _) with
  | .ok text => return text
  | .error reason => throw (.unreadable role path reason)

/-- The configuration of a command. -/
def loadConfig (read : String → m (Except String String)) :
    Option String → ExceptT CommandError m CacheConfig
  | none => return default
  | some path => do
    let text ← fileText read .config path
    ExceptT.mk (pure (readConfig path text))

/-- The context of an evaluation: the bindings of the file, and those given one by one. -/
def loadContext (read : String → m (Except String String)) (o : EvalOptions) :
    ExceptT CommandError m Context := do
  let fromFile ←
    match o.bindings with
    | none => pure []
    | some path => do
      let text ← fileText read .bindings path
      ExceptT.mk (pure (readBindings path text))
  let given ← ExceptT.mk (pure (o.vars.mapM readVar))
  return .ofPairs (fromFile ++ given)

/-- Carries out a task with a cache. -/
def executeTask (read : String → m (Except String String)) (cache : Cache) :
    Task → ExceptT CommandError m Report
  | .eval o => do
    let context ← loadContext read o
    let (result, cache) := (evalResult o context).run.run cache
    return evalReport o (← ExceptT.mk (pure result)) cache.stats
  | .check expression => do
    let (result, _) := (Job.ofRequest (Request.compile expression)).run.run cache
    return checkReport (← ExceptT.mk (pure result)).compiled

/-- Carries out a command.  The cache is made first, whatever the task is. -/
def execute (read : String → m (Except String String)) (room : Nat) (command : Command) :
    ExceptT CommandError m Report := do
  match Cache.new room (← loadConfig read command.config) with
  | some cache => executeTask read cache command.task
  | none => return crashed

/-- The outcome of a command line, given a way to read files and the number of entries that there is
room for. -/
def run (read : String → m (Except String String)) (room : Nat) (args : List String) : m Report := do
  match Command.read args with
  | .error h => return halted h
  | .ok command =>
    match ← (execute read room command).run with
    | .ok report => return report
    | .error e => return failed e

end Running

end CommandLine
end ExprLang
