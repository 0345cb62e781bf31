/-!
# Arguments of commands

Options and other arguments as they are written on a command line.  An option has a long name behind
two hyphens or a letter behind one; letters can be joined, and a value stands behind an equals sign,
right behind the letter, or in the next argument, which then must not look like an option.  Two
hyphens alone end the options.

## Main definitions

* `OptionSpec` — an option that a command knows.
* `Arguments`, `Arguments.scan` — what stands on a command line.

## References

`SPEC_FULL.md`, 10.10; the arguments that the reference's `Cli` declares.
-/

namespace ExprLang

/-- Why a command line is not carried out. -/
inductive Halt
  /-- It is written wrong. -/
  | usage
  /-- It asks for the version. -/
  | version
  /-- It asks how it is to be written. -/
  | help
  deriving DecidableEq, Repr

/-- An option that a command knows. -/
structure OptionSpec where
  long : String
  short : Option Char
  /-- Which values it takes; a flag takes none. -/
  value : Option (String → Bool)
  /-- Whether it may be given more than once. -/
  repeatable : Bool
  /-- Why nothing else counts once it is given. -/
  halt : Option Halt

/-- What stands on a command line. -/
structure Arguments where
  /-- The options by their long names, with their values; the value of a flag is empty. -/
  options : List (String × String)
  /-- The arguments that belong to no option. -/
  operands : List String

namespace Arguments

/-- The first value of an option. -/
def value? (a : Arguments) (long : String) : Option String := a.options.lookup long

/-- All values of an option. -/
def values (a : Arguments) (long : String) : List String :=
  (a.options.filter fun p => p.1 == long).map Prod.snd

/-- Whether an option is given. -/
def has (a : Arguments) (long : String) : Bool := (a.value? long).isSome

/-- Whether an argument looks like an option; a hyphen alone does not. -/
def isOptionLike (arg : String) : Bool := arg.startsWith "-" && arg != "-"

/-- Takes the value of an option, which may be attached to it already, from the arguments behind. -/
def takeValue (spec : OptionSpec) (attached : Option String) (rest : List String) :
    Except Halt (String × List String) :=
  match spec.value, attached, rest with
  | none, none, rest => .ok ("", rest)
  | none, some _, _ => .error .usage
  | some accepts, some v, rest => if accepts v then .ok (v, rest) else .error .usage
  | some _, none, [] => .error .usage
  | some accepts, none, v :: rest =>
    if isOptionLike v || !accepts v then .error .usage else .ok (v, rest)

/-- An option given by its long name. -/
def takeLong (specs : List OptionSpec) (body : List Char) (rest : List String) :
    Except Halt (List (OptionSpec × String) × List String) := do
  let name := String.ofList (body.takeWhile (· != '='))
  let attached := match body.dropWhile (· != '=') with
    | [] => none
    | _ :: v => some (String.ofList v)
  match specs.find? fun s => s.long == name with
  | none => throw .usage
  | some spec =>
    let (v, rest) ← takeValue spec attached rest
    return ([(spec, v)], rest)

/-- Options given by their letters, joined to one argument. -/
def takeLetters (specs : List OptionSpec) : List Char → List String →
    Except Halt (List (OptionSpec × String) × List String)
  | [], rest => .ok ([], rest)
  | c :: cs, rest =>
    match specs.find? fun s => s.short == some c with
    | none => .error .usage
    | some spec => do
      if let some h := spec.halt then throw h
      if spec.value.isNone then
        let (more, rest) ← takeLetters specs cs rest
        return ((spec, "") :: more, rest)
      else
        let attached := match cs with
          | [] => none
          | '=' :: v => some (String.ofList v)
          | v => some (String.ofList v)
        let (v, rest) ← takeValue spec attached rest
        return ([(spec, v)], rest)

/-- Adds options to those already found, unless one would stand there twice that may not. -/
def addOptions (found : List (String × String)) :
    List (OptionSpec × String) → Except Halt (List (String × String))
  | [] => .ok found
  | (spec, v) :: more =>
    match spec.halt with
    | some h => .error h
    | none =>
      if !spec.repeatable && (found.lookup spec.long).isSome then .error .usage
      else addOptions (found ++ [(spec.long, v)]) more

/-- Goes through the arguments up to the first operand, or through all of them, with the options
`found` before; answers the options and the arguments that are left. -/
def scanOptions (specs : List OptionSpec) : (fuel : Nat) → (found : List (String × String)) →
    List String → Except Halt (List (String × String) × List String)
  | 0, found, rest => .ok (found, rest)
  | _ + 1, found, [] => .ok (found, [])
  | fuel + 1, found, arg :: rest =>
    match arg.toList with
    | '-' :: '-' :: [] => .ok (found, arg :: rest)
    | '-' :: '-' :: body => do
      let (options, rest) ← takeLong specs body rest
      scanOptions specs fuel (← addOptions found options) rest
    | '-' :: c :: cs => do
      let (options, rest) ← takeLetters specs (c :: cs) rest
      scanOptions specs fuel (← addOptions found options) rest
    | _ => .ok (found, arg :: rest)

/-- All options and operands among the arguments. -/
def scanAll (specs : List OptionSpec) : (fuel : Nat) → Arguments → List String →
    Except Halt Arguments
  | 0, a, _ => .ok a
  | fuel + 1, a, args => do
    match ← scanOptions specs args.length a.options args with
    | (found, []) => return { a with options := found }
    | (found, "--" :: rest) => return ⟨found, a.operands ++ rest⟩
    | (found, operand :: rest) => scanAll specs fuel ⟨found, a.operands ++ [operand]⟩ rest

/-- The arguments of a command. -/
def scan (specs : List OptionSpec) (args : List String) : Except Halt Arguments :=
  scanAll specs (args.length + 1) ⟨[], []⟩ args

end Arguments
end ExprLang
