import ExprLang.Request

/-!
# Resolvers

A resolver answers texts in a context that is fixed once and for all: when it is made, a context
without a registry takes up the shared one, if there is one by then.

## Main definitions

* `Resolver`, `Resolver.new` — a context made ready.
* `Resolver.get` — the value of a text.
* `Resolver.resolveOrDefault` — the value of a text, or a default where it has none.

## References

`SPEC_FULL.md`, 4.4 and 10.7; the reference's `ExpressionResolver`, with `get` and
`resolve_or_default`.
-/

namespace ExprLang

/-- A context in which texts are answered. -/
structure Resolver where
  context : Context

namespace Resolver

/-- The resolver of a context, to which the shared registry is attached if it has none. -/
def new (shared : Option Registry) (context : Context) : Resolver := ⟨context.orRegistry shared⟩

/-- The value of a text as one of the type `α`, if it has one. -/
def get {α : Type} [Coercible α] (r : Resolver) (text : String) : Request (Option α) :=
  Request.evaluate text r.context

/-- The value of a text, or the default where the text is absent, blank or without a value.  The
default is an action, which runs only where it is needed. -/
def resolveOrDefault {α : Type} [Coercible α] {m : Type → Type} [Monad m] (r : Resolver)
    (text : Option String) (default : m α) (cache : Cache) : m (Except RequestError α × Cache) :=
  match text.filter fun s => !isBlankText s with
  | none => do return (.ok (← default), cache)
  | some s =>
    match r.get s cache with
    | (.ok (some a), cache) => pure (.ok a, cache)
    | (.ok none, cache) => do return (.ok (← default), cache)
    | (.error e, cache) => pure (.error e, cache)

end Resolver
end ExprLang
