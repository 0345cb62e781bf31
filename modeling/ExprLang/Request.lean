import ExprLang.Cache
import ExprLang.Evaluation
import ExprLang.Value.Coercion

/-!
# Requests

Asking for the value of a text.  Texts are compiled through a cache, whose state every request hands
on.  Only a text that cannot be compiled is an error: whatever goes wrong in an evaluation or a
coercion leaves the result empty, as null does.

## Main definitions

* `RequestError` — what can go wrong with a request.
* `Request` — requests, as actions on the state of a cache.
* `Request.compile`, `Request.evaluate` — the compiled form and the value of a text.
* `Compiled.evaluate?` — the value of a compiled expression, if it has one of the given type.

## References

`SPEC_FULL.md`, 4.3; the reference's `ExpressionEvaluator`, with `compile`, `evaluate` and
`evaluate_compiled`, and `ResolverError`.
-/

namespace ExprLang

/-- What can go wrong with a request. -/
inductive RequestError
  | compile (text : String) (cause : ParseError)
  | registry (cause : RegistryError)
  deriving DecidableEq, Repr

namespace RequestError

def message : RequestError → String
  | compile text cause => "Failed to compile expression '" ++ text ++ "': " ++ cause.message
  | registry cause => cause.message

end RequestError

/-- A request on a cache.  The state is handed on after an error as well. -/
abbrev Request := ExceptT RequestError (StateM Cache)

/-- The value of a compiled expression as one of the type `α`; there is none where the value is null,
the evaluation fails or the coercion does. -/
def Compiled.evaluate? {α : Type} [Coercible α] (c : Compiled) (context : Context) : Option α :=
  match c.tree.eval context with
  | .ok .null => none
  | .ok v => (Coercible.ofValue v).toOption
  | .error _ => none

namespace Request

/-- The compiled form of a text, from the cache where possible. -/
def compile (text : String) : Request Instance := fun cache =>
  match cache.compile text with
  | (.ok i, cache) => (.ok i, cache)
  | (.error e, cache) => (.error (.compile text e), cache)

/-- The value of a text as one of the type `α`, if it has one. -/
def evaluate {α : Type} [Coercible α] (text : String) (context : Context) : Request (Option α) := do
  let i ← compile text
  return i.compiled.evaluate? context

/-- A request ends with the first part that fails; what comes next goes on with the cache that the part
before has left. -/
theorem run_bind {α β : Type} (r : Request α) (f : α → Request β) (c : Cache) :
    (r >>= f).run.run c = match r.run.run c with
      | (.ok a, c) => (f a).run.run c
      | (.error e, c) => (.error e, c) := by
  rw [ExceptT.run_bind, StateT.run_bind]
  rcases r.run.run c with ⟨_ | _, _⟩ <;> rfl

/-- To compile a text is to the cache to compile it, with the text put into the error. -/
theorem run_compile (text : String) (c : Cache) :
    (compile text).run.run c = ((c.compile text).1.mapError (.compile text), (c.compile text).2) := by
  show compile text c = _
  unfold compile
  rcases c.compile text with ⟨_ | _, _⟩ <;> rfl

end Request
end ExprLang
