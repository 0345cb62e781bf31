import ExprLang.Call

/-!
# Sessions

What the parts of one program share: a registry, installed at most once, and a cache.  Everything
that is asked of a session sees the registry that is installed by then, unless its own context has a
registry already.

## Main definitions

* `Session`, `Session.register` — the shared state, and installing the registry.
* `Session.evaluate`, `Session.resolveOrDefault`, `Session.evaluateCall` — asking for values.
* `Session.resolver`, `Session.callResolver`, `Session.callResolverIf` — making resolvers.

## References

`SPEC_FULL.md`, 6; the reference's `evaluate`, `evaluate_invocation`, `resolve_or_default`,
`adapter_from_call` and `register_dependency_registry`.
-/

namespace ExprLang

/-- The state shared by a program. -/
structure Session where
  registry : RegistryCell
  cache : Cache

namespace Session

/-- The session at the start of a program. -/
def new : Session := ⟨.empty, .start default⟩

instance : Inhabited Session := ⟨new⟩

/-- Installs the shared registry. -/
def register (s : Session) (r : Registry) : Except RegistryError Unit × Session :=
  let (result, cell) := s.registry.install r
  (result, { s with registry := cell })

/-- The component of the shared registry under a name. -/
def component? (s : Session) (name : String) : Option Value := s.registry.component? name

/-- A context that sees the shared registry, if there is one and none of its own. -/
def withSharedRegistry (s : Session) (context : Context) : Context :=
  context.orRegistry s.registry.content

/-- Serves a request from the shared cache. -/
def serve {α : Type} (s : Session) (r : Request α) : Except RequestError α × Session :=
  let (result, cache) := r s.cache
  (result, { s with cache := cache })

/-! ### Asking for values -/

/-- The compiled form of a text. -/
def compile (s : Session) (text : String) : Except RequestError Instance × Session :=
  s.serve (Request.compile text)

/-- The value of a text in a context.  A context with a registry, or one for which there is no shared
registry, is used as it is. -/
def evaluate {α : Type} [Coercible α] (s : Session) (text : String) (context : Context) :
    Except RequestError (Option α) × Session :=
  if context.registry.isSome || !s.registry.isSet then s.serve (Request.evaluate text context)
  else s.serve (Request.evaluate text (s.withSharedRegistry context))

/-! ### Making resolvers -/

/-- The resolver of a context. -/
def resolver (s : Session) (context : Context) : Resolver := .new s.registry.content context

/-- The resolver of a call, whose method declares the names of its parameters. -/
def callResolver (s : Session) (call : Call) : Resolver :=
  call.resolver .declared s.registry.content

/-- The resolver of a call under a condition. -/
def callResolverIf (s : Session) (call : Call) (condition : Option String) :
    Except RequestError (Option Resolver) × Session :=
  s.serve (call.resolverIf .declared s.registry.content condition)

/-- The value of a text in the context of a call. -/
def evaluateCall {α : Type} [Coercible α] (s : Session) (text : String) (call : Call) :
    Except RequestError (Option α) × Session :=
  s.serve ((s.resolver (call.context .declared)).get text)

/-- The value of a text in a context, or the default where there is none. -/
def resolveOrDefault {α : Type} [Coercible α] {m : Type → Type} [Monad m] (s : Session)
    (text : Option String) (context : Context) (default : m α) :
    m (Except RequestError α × Session) := do
  let (result, cache) ← (s.resolver context).resolveOrDefault text default s.cache
  return (result, { s with cache := cache })

end Session
end ExprLang
