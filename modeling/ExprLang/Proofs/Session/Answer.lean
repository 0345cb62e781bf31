import ExprLang.Proofs.Cache.Transparency
import ExprLang.Session

/-!
# What a session answers

A session has two things that its requests share: a cache, which cannot be seen, and the place for a
registry.  So whatever is asked of it is answered by the text and by the context that the text is
evaluated in; of the session itself nothing counts but the registry that is installed.

To the cache every request is a use like any other: one text is compiled, or none.

## Main definitions

* `answer` — what a text is answered in a context.
* `orDefault` — an answer with a default in place of nothing.
* `Session.afterUses` — a session whose cache has come about by use.

## Main results

* `Resolver.resolveOrDefault_of_blank`, `Resolver.resolveOrDefault_of_not_blank` — values with a
  default.
* `Cache.Faithful.run_get`, `Cache.Faithful.run_resolveOrDefault` — what a resolver answers.
* `Cache.cache_request`, `Cache.exists_uses_request` and its like — what requests leave behind.
* `Session.run_evaluate` — what a session answers.
-/

namespace ExprLang

variable {α : Type} [Coercible α] {text : String} {context : Context}

/-- What a text is answered in a context: the value it has there, read afresh, or the reason why it
cannot be read. -/
def answer (text : String) (context : Context) : Except RequestError (Option α) :=
  match Compiled.ofText text with
  | .ok compiled => .ok (compiled.evaluate? context)
  | .error e => .error (.compile text e)

/-- An answer, or a default where it has no value.  The default is an action, which runs only where it
is needed. -/
def orDefault {m : Type → Type} [Monad m] (default : m α) :
    Except RequestError (Option α) → m (Except RequestError α)
  | .ok (some a) => pure (.ok a)
  | .ok none => .ok <$> default
  | .error e => pure (.error e)

theorem answer_of_ok {compiled : Compiled} (h : Compiled.ofText text = .ok compiled) :
    answer (α := α) text context = .ok (compiled.evaluate? context) := by
  rw [answer, h]

theorem answer_of_error {e : ParseError} (h : Compiled.ofText text = .error e) :
    answer (α := α) text context = .error (.compile text e) := by
  rw [answer, h]

/-! ### Resolvers -/

namespace Resolver

variable {m : Type → Type} [Monad m] [LawfulMonad m]

theorem resolveOrDefault_of_blank (r : Resolver) {text : Option String} (default : m α) (c : Cache)
    (h : ∀ s, text = some s → isBlankText s = true) :
    r.resolveOrDefault text default c = (fun a => (.ok a, c)) <$> default := by
  have hfilter : text.filter (fun s => !isBlankText s) = none := by
    rw [Option.filter_eq_none_iff]
    intro s hs
    simp [h s hs]
  rw [resolveOrDefault, hfilter]
  exact (map_eq_pure_bind _ _).symm

theorem resolveOrDefault_of_not_blank (r : Resolver) (default : m α) (c : Cache)
    (h : isBlankText text = false) :
    r.resolveOrDefault (some text) default c =
      (fun result => (result, ((r.get text : Request (Option α)).run.run c).2)) <$>
        orDefault default ((r.get text : Request (Option α)).run.run c).1 := by
  have hfilter : (some text).filter (fun s => !isBlankText s) = some text := by
    rw [Option.filter_some, h]
    rfl
  rw [resolveOrDefault, hfilter]
  show _ = (fun result => (result, (r.get text c).2)) <$> orDefault default (r.get text c).1
  dsimp only
  rcases r.get text c with ⟨e | _ | a, cache⟩ <;> simp [orDefault]

end Resolver

/-- A resolver under a condition is made from what the condition is resolved to. -/
theorem Call.run_resolverIf (call : Call) (source : NameSource) (shared : Option Registry)
    (condition : Option String) (c : Cache) :
    (call.resolverIf source shared condition).run.run c =
      (Id.run ((call.resolver source shared).resolveOrDefault condition (pure false) c)).map
        (Except.map fun b => if b then some (call.resolver source shared) else none) id := by
  generalize hr : call.resolver source shared = r
  unfold Call.resolverIf
  rw [hr]
  let truth : Request Bool := fun c => r.resolveOrDefault condition (pure false : Id Bool) c
  show (truth >>= fun b => pure (if b then some r else none)).run.run c =
    (truth.run.run c).map (Except.map fun b => if b then some r else none) id
  rw [Request.run_bind]
  rcases truth.run.run c with ⟨_ | _, _⟩ <;> rfl

/-- What is made under a condition is the resolver of the call. -/
theorem Call.eq_resolver_of_resolverIf {call : Call} {source : NameSource}
    {shared : Option Registry} {condition : Option String} {c c' : Cache} {r : Resolver}
    (h : (call.resolverIf source shared condition).run.run c = (.ok (some r), c')) :
    r = call.resolver source shared := by
  rw [call.run_resolverIf] at h
  generalize Id.run _ = outcome at h
  obtain ⟨e | truth, cache⟩ := outcome
  · cases h
  · cases truth with
    | true =>
      cases h
      rfl
    | false => cases h

namespace Cache

variable {c : Cache}

/-! ### Answers -/

theorem Faithful.run_request (h : c.Faithful) :
    ((Request.evaluate text context : Request (Option α)).run.run c).1 = answer text context := by
  rw [run_evaluate, h.compile text]
  rfl

theorem Faithful.run_get (h : c.Faithful) (r : Resolver) :
    ((r.get text : Request (Option α)).run.run c).1 = answer text r.context :=
  h.run_request

theorem Faithful.run_resolveOrDefault {m : Type → Type} [Monad m] [LawfulMonad m]
    (h : c.Faithful) (r : Resolver) (default : m α) (hblank : isBlankText text = false) :
    Prod.fst <$> r.resolveOrDefault (some text) default c =
      orDefault default (answer text r.context) := by
  rw [r.resolveOrDefault_of_not_blank default c hblank, Functor.map_map, h.run_get r]
  exact id_map _

/-! ### Uses -/

theorem perform_compile_none (c : Cache) (text : String) :
    (c.perform (.compile text none)).2 = (c.compile text).2 := by
  rw [perform]
  rcases c.compile text with ⟨_ | _, _⟩ <;> rfl

/-- Of the cache a request for a value asks nothing but to compile the text. -/
theorem cache_request (c : Cache) :
    ((Request.evaluate text context : Request (Option α)).run.run c).2 = (c.compile text).2 := by
  show (((Request.compile text >>= fun i => pure (i.compiled.evaluate? context)) :
    Request (Option α)).run.run c).2 = (c.compile text).2
  rw [Request.run_bind, Request.run_compile]
  rcases c.compile text with ⟨_ | _, _⟩ <;> rfl

theorem exists_uses_request (c : Cache) :
    ∃ uses, ((Request.evaluate text context : Request (Option α)).run.run c).2 = c.run uses := by
  refine ⟨[.compile text none], ?_⟩
  rw [cache_request, ← perform_compile_none]
  rfl

theorem exists_uses_resolveOrDefault (c : Cache) (r : Resolver) (text : Option String)
    (default : α) :
    ∃ uses, (Id.run (r.resolveOrDefault text (pure default) c)).2 = c.run uses := by
  by_cases h : ∀ s, text = some s → isBlankText s = true
  · exact ⟨[], by rw [r.resolveOrDefault_of_blank _ c h]; rfl⟩
  · push Not at h
    obtain ⟨s, rfl, hs⟩ := h
    obtain ⟨uses, huses⟩ : ∃ uses, ((r.get s : Request (Option α)).run.run c).2 = c.run uses :=
      c.exists_uses_request
    refine ⟨uses, ?_⟩
    rw [r.resolveOrDefault_of_not_blank _ c (eq_false_of_ne_true hs), ← huses]
    rfl

theorem exists_uses_resolverIf (c : Cache) (call : Call) (source : NameSource)
    (shared : Option Registry) (condition : Option String) :
    ∃ uses, ((call.resolverIf source shared condition).run.run c).2 = c.run uses := by
  rw [Call.run_resolverIf]
  exact c.exists_uses_resolveOrDefault _ condition false

end Cache

/-! ### Sessions -/

namespace Session

/-- The session with a place for a registry and with a cache that has come about by use. -/
def afterUses (cell : RegistryCell) (config : CacheConfig) (uses : List Cache.Action) : Session :=
  ⟨cell, (Cache.start config).run uses⟩

variable {s : Session}

theorem faithful_afterUses (cell : RegistryCell) (config : CacheConfig)
    (uses : List Cache.Action) : (afterUses cell config uses).cache.Faithful :=
  Cache.faithful_run config uses

/-- The shared registry is attached in the end wherever it has to be, though not always by the same
way. -/
theorem evaluate_eq_serve (s : Session) (text : String) (context : Context) :
    (s.evaluate text context : Except RequestError (Option α) × Session) =
      s.serve (Request.evaluate text (s.withSharedRegistry context)) := by
  unfold evaluate
  split
  -- the request is passed on as it is only where there is nothing to attach
  · next h =>
    have hsame : s.withSharedRegistry context = context := by
      rcases Bool.or_eq_true_iff.mp h with hown | hunset
      · obtain ⟨r, hr⟩ := Option.isSome_iff_exists.mp hown
        exact Context.orRegistry_some context r _ hr
      · have hnone : s.registry.content = none := by simpa [RegistryCell.isSet] using hunset
        rw [withSharedRegistry, hnone, Context.orRegistry_none]
    rw [hsame]
  · rfl

theorem run_evaluate (h : s.cache.Faithful) (text : String) (context : Context) :
    (s.evaluate text context : Except RequestError (Option α) × Session).1 =
      answer text (s.withSharedRegistry context) := by
  rw [evaluate_eq_serve]
  exact h.run_request

end Session
end ExprLang
