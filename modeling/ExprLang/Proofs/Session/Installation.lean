import ExprLang.Proofs.Session.Answer
import ExprLang.Session.Run
import Mathlib.Data.List.Induction

/-!
# The registry of a program

A program has one place for a registry, which the first registration fills for good.  Everything that
reads it reads it at its own moment: a component and a value are looked up in what is registered when
they are asked for, a resolver takes up what is registered when it is made and keeps to that.

## Main definitions

* `Program.firstRegistered` — the registry that was registered first in a list of actions.
* `Program.Step` — what an action can change in a program.

## Main results

* `Program.perform_step` — every action is a step.
* `Program.content_run`, `Program.cache_run`, `Program.resolvers_run_append` — what a run leads to.
* `Program.first_registration_run` — **the first registration counts, and a resolver sees it if it
  was made after it.**

## References

`SPEC_FULL.md`, 3, 8 and 10.6: the first registration remains in effect.
-/

namespace ExprLang
namespace Program

variable {α : Type} [Coercible α] {p p' : Program} {a : Action} {r : Reply} {text : String}

/-- What an action registers. -/
def Action.registration? : Action → Option Registry
  | register r => some r
  | _ => none

/-- The context that an action makes a resolver for. -/
def Action.context? : Action → Option Context
  | makeResolver context => some context
  | makeCallResolver call | makeCallResolverIf call _ => some (call.context .declared)
  | _ => none

/-- The registry that is registered first, if any is. -/
def firstRegistered (actions : List Action) : Option Registry :=
  actions.findSome? Action.registration?

/-! ### Steps -/

/-- What an action can change, and that its reply tells whether it made a resolver. -/
structure Step (p : Program) (a : Action) (r : Reply) (p' : Program) : Prop where
  content_eq : p'.session.registry.content = p.session.registry.content.or a.registration?
  cache_eq : ∃ uses, p'.session.cache = p.session.cache.run uses
  resolvers_eq : (p'.resolvers = p.resolvers ∧ ∀ n, r ≠ .made n) ∨
    ∃ context, a.context? = some context ∧ r = .made p.resolvers.length ∧
      p'.resolvers = p.resolvers ++ [p.session.resolver context]

/-- What leaves everything as it is but the cache, which it uses. -/
theorem Step.of_cache {cache : Cache} (hregistration : a.registration? = none)
    (hcache : ∃ uses, cache = p.session.cache.run uses) (hreply : ∀ n, r ≠ .made n) :
    Step p a r { p with session := { p.session with cache := cache } } :=
  ⟨by rw [hregistration, Option.or_none], hcache, .inl ⟨rfl, hreply⟩⟩

/-- What makes a resolver may have used the cache before. -/
theorem Step.of_keep {cache : Cache} {context : Context} (hregistration : a.registration? = none)
    (hcontext : a.context? = some context) (hcache : ∃ uses, cache = p.session.cache.run uses) :
    Step p a (.made p.resolvers.length)
      { p with
        session := { p.session with cache := cache }
        resolvers := p.resolvers ++ [p.session.resolver context] } :=
  ⟨by rw [hregistration, Option.or_none], hcache, .inr ⟨context, hcontext, rfl, rfl⟩⟩

theorem register_step (p : Program) (registry : Registry) :
    Step p (.register registry) (p.perform (.register registry)).1
      (p.perform (.register registry)).2 := by
  refine ⟨?_, ⟨[], rfl⟩, .inl ⟨rfl, fun n => nofun⟩⟩
  show (p.session.registry.install registry).2.content = _
  cases hcontent : p.session.registry.content with
  | none => simp [RegistryCell.install, hcontent, Action.registration?]
  | some first => rw [RegistryCell.install_of_content hcontent, hcontent, Option.some_or]

theorem makeCallResolverIf_step (p : Program) (call : Call) (condition : Option String) :
    Step p (.makeCallResolverIf call condition)
      (p.perform (.makeCallResolverIf call condition)).1
      (p.perform (.makeCallResolverIf call condition)).2 := by
  have hcache : ∃ uses, (call.resolverIf .declared p.session.registry.content condition
      p.session.cache).2 = p.session.cache.run uses :=
    p.session.cache.exists_uses_resolverIf call .declared p.session.registry.content condition
  simp only [perform, Session.callResolverIf, Session.serve]
  rcases hresult : call.resolverIf .declared p.session.registry.content condition
    p.session.cache with ⟨e | _ | r, cache⟩
  all_goals rw [hresult] at hcache
  -- the condition failed, or was false, or was true
  · exact .of_cache rfl hcache fun n => nofun
  · exact .of_cache rfl hcache fun n => nofun
  · obtain rfl : r = call.resolver .declared p.session.registry.content :=
      Call.eq_resolver_of_resolverIf hresult
    exact .of_keep rfl rfl hcache

theorem withResolver_step {number : Nat} {f : Resolver → Reply × Program}
    (hregistration : a.registration? = none) (hf : ∀ r, Step p a (f r).1 (f r).2) :
    Step p a (p.withResolver number f).1 (p.withResolver number f).2 := by
  unfold withResolver
  split
  · exact hf _
  · exact .of_cache hregistration ⟨[], rfl⟩ fun n => nofun

theorem perform_step (p : Program) (a : Action) : Step p a (p.perform a).1 (p.perform a).2 := by
  -- one action registers and three keep a resolver; the others at most use the cache
  cases a with
  | register registry => exact p.register_step registry
  | component name => exact .of_cache rfl ⟨[], rfl⟩ fun n => nofun
  | makeResolver context => exact .of_keep rfl rfl ⟨[], rfl⟩
  | makeCallResolver call => exact .of_keep rfl rfl ⟨[], rfl⟩
  | makeCallResolverIf call condition => exact p.makeCallResolverIf_step call condition
  | @evaluate α _ text context =>
    show Step p _ (.answered (p.session.evaluate (α := α) text context).1)
      { p with session := (p.session.evaluate (α := α) text context).2 }
    rw [Session.evaluate_eq_serve]
    exact .of_cache rfl p.session.cache.exists_uses_request fun n => nofun
  | evaluateCall α text call => exact .of_cache rfl p.session.cache.exists_uses_request fun n => nofun
  | resolveOrDefault α text context default =>
    exact .of_cache rfl (p.session.cache.exists_uses_resolveOrDefault _ text default) fun n => nofun
  | ask α number text =>
    exact withResolver_step rfl fun _ =>
      .of_cache rfl p.session.cache.exists_uses_request fun n => nofun
  | askOrDefault α number text default =>
    exact withResolver_step rfl fun r =>
      .of_cache rfl (p.session.cache.exists_uses_resolveOrDefault r text default) fun n => nofun
  | useCache use => exact .of_cache rfl ⟨[use], rfl⟩ fun n => nofun

/-! ### Runs -/

theorem run_concat (actions : List Action) (a : Action) :
    run (actions ++ [a]) = ((run actions).perform a).2 :=
  List.foldl_concat ..

theorem run_step (actions : List Action) (a : Action) :
    Step (run actions) a (replyTo actions a) (run (actions ++ [a])) := by
  rw [run_concat]
  exact perform_step _ a

/-- The place for a registry holds what was registered first. -/
theorem content_run (actions : List Action) :
    (run actions).session.registry.content = firstRegistered actions := by
  induction actions using List.reverseRecOn with
  | nil => rfl
  | append_singleton actions a ih =>
    rw [(run_step actions a).content_eq, ih, firstRegistered, firstRegistered,
      List.findSome?_append, List.findSome?_singleton]

/-- The shared cache has come about by use. -/
theorem cache_run (actions : List Action) :
    ∃ uses, (run actions).session.cache = (Cache.start default).run uses := by
  induction actions using List.reverseRecOn with
  | nil => exact ⟨[], rfl⟩
  | append_singleton actions a ih =>
    obtain ⟨before, hbefore⟩ := ih
    obtain ⟨uses, huses⟩ := (run_step actions a).cache_eq
    exact ⟨before ++ uses, by rw [huses, hbefore, Cache.run_append]⟩

theorem faithful_run (actions : List Action) : (run actions).session.cache.Faithful := by
  obtain ⟨uses, huses⟩ := cache_run actions
  rw [huses]
  exact Cache.faithful_run default uses

/-- The resolvers of a program stay as they are; later ones come behind them. -/
theorem resolvers_run_append (actions later : List Action) :
    (run actions).resolvers <+: (run (actions ++ later)).resolvers := by
  induction later using List.reverseRecOn with
  | nil => exact ⟨[], by rw [List.append_nil, List.append_nil]⟩
  | append_singleton later a ih =>
    rw [← List.append_assoc]
    rcases (run_step (actions ++ later) a).resolvers_eq with ⟨hsame, -⟩ | ⟨context, -, -, hmade⟩
    · rwa [hsame]
    · rw [hmade]
      exact ih.trans (List.prefix_append _ _)

/-! ### Replies -/

theorem replyTo_evaluate (actions : List Action) (text : String) (context : Context) :
    replyTo actions (.evaluate α text context) =
      .answered (answer (α := α) text (context.orRegistry (firstRegistered actions))) := by
  rw [← content_run actions]
  exact congrArg Reply.answered (Session.run_evaluate (faithful_run actions) text context)

theorem replyTo_ask {actions : List Action} {n : Nat} {r : Resolver}
    (h : (run actions).resolvers[n]? = some r) (text : String) :
    replyTo actions (.ask α n text) = .answered (answer (α := α) text r.context) := by
  show ((run actions).withResolver n _).1 = _
  rw [withResolver, h]
  exact congrArg Reply.answered ((faithful_run actions).run_get r)

/-- A resolver that is made takes up what is registered by then and stays. -/
theorem exists_resolver_of_made {actions : List Action} {a : Action} {n : Nat}
    (h : replyTo actions a = .made n) :
    ∃ context, a.context? = some context ∧ ∀ later,
      (run (actions ++ a :: later)).resolvers[n]? =
        some ⟨context.orRegistry (firstRegistered actions)⟩ := by
  rcases (run_step actions a).resolvers_eq with ⟨-, hnot⟩ | ⟨context, hcontext, hreply, hmade⟩
  · exact absurd h (hnot n)
  · obtain rfl : (run actions).resolvers.length = n := by
      rw [h] at hreply
      cases hreply
      rfl
    refine ⟨context, hcontext, fun later => ?_⟩
    -- the new resolver is the last one by now, and later ones come behind it
    obtain ⟨rest, hrest⟩ := resolvers_run_append (actions ++ [a]) later
    rw [List.append_assoc, List.singleton_append] at hrest
    have hlast : (run (actions ++ [a])).resolvers[(run actions).resolvers.length]? =
        some ((run actions).session.resolver context) := by
      rw [hmade, List.getElem?_concat_length]
    obtain ⟨hlt, -⟩ := List.getElem?_eq_some_iff.mp hlast
    rw [← hrest, List.getElem?_append_left hlt, hlast, ← content_run actions]
    rfl

/-- **The first registration counts, and a resolver sees it if it was made after it.**  After any run
of a program

* a registration succeeds if it is the first, and changes nothing if it is not;
* a component is looked up in what was registered first;
* a value is looked up in the registry of its context, or else in what was registered first by now;
* a resolver that is made looks its values up, for good and whatever cache it goes through, in the
  registry of its context, or else in what was registered first when it was made. -/
theorem first_registration_run (actions : List Action) :
    (∀ registry, replyTo actions (.register registry) =
      .registered (if (firstRegistered actions).isSome then .error .alreadyRegistered else .ok ())) ∧
    (∀ registry, (firstRegistered actions).isSome →
      run (actions ++ [.register registry]) = run actions) ∧
    (∀ name, replyTo actions (.component name) =
      .component ((firstRegistered actions).bind fun r => r.component? name)) ∧
    (∀ (α : Type) [Coercible α] (text : String) (context : Context),
      replyTo actions (.evaluate α text context) = .answered (answer (α := α) text
        ⟨context.bindings, context.registry.or (firstRegistered actions)⟩)) ∧
    (∀ context, ∃ n, replyTo actions (.makeResolver context) = .made n) ∧
    ∀ (a : Action) (n : Nat), replyTo actions a = .made n →
      ∃ context, a.context? = some context ∧
        let fixed : Context := ⟨context.bindings, context.registry.or (firstRegistered actions)⟩
        ∀ later : List Action, (run (actions ++ a :: later)).resolvers[n]? = some ⟨fixed⟩ ∧
          ∀ (α : Type) [Coercible α] (text : String),
            replyTo (actions ++ a :: later) (.ask α n text) =
              .answered (answer (α := α) text fixed) ∧
            ∀ (config : CacheConfig) (uses : List Cache.Action),
              (((⟨fixed⟩ : Resolver).get text : Request (Option α)).run.run
                ((Cache.start config).run uses)).1 = answer text fixed := by
  have hcontent := content_run actions
  refine ⟨fun registry => ?_, fun registry hset => ?_, fun name => ?_,
    fun α _ text context => replyTo_evaluate actions text context, fun context => ⟨_, rfl⟩,
    fun a n hmade => ?_⟩
  · -- registering is refused as soon as there is a registry
    show Reply.registered ((run actions).session.registry.install registry).1 = _
    cases hfirst : firstRegistered actions with
    | none =>
      rw [hfirst] at hcontent
      simp [RegistryCell.install, hcontent]
    | some first =>
      rw [hfirst] at hcontent
      rw [RegistryCell.install_of_content hcontent, Option.isSome_some, if_pos rfl]
  · obtain ⟨first, hfirst⟩ := Option.isSome_iff_exists.mp hset
    rw [hfirst] at hcontent
    rw [run_concat]
    show ({ run actions with session := { (run actions).session with
      registry := ((run actions).session.registry.install registry).2 } } : Program) = run actions
    rw [RegistryCell.install_of_content hcontent]
  · rw [← hcontent]
    rfl
  · -- a context is fixed when its resolver is made, and stays
    obtain ⟨context, hcontext, hkept⟩ := exists_resolver_of_made hmade
    exact ⟨context, hcontext, fun later => ⟨hkept later, fun α _ text =>
      ⟨replyTo_ask (hkept later) text, fun config uses => (Cache.faithful_run config uses).run_get _⟩⟩⟩

/-- A resolver from before the first of two registrations, one from between them, and a request after
both. -/
theorem first_registration_run_of_two :
    let c : Context := .ofPairs [("amount", .integer 80)]
    let first : Registry := .ofEntries [("limit", .integer 50)]
    let second : Registry := .ofEntries [("limit", .integer 999)]
    let actions : List Action := [.makeResolver c, .register first, .makeResolver c]
    replyTo actions (.register second) = .registered (.error .alreadyRegistered) ∧
      run (actions ++ [.register second]) = run actions ∧
      replyTo (actions ++ [.register second]) (.ask Int64 0 "limit") =
        .answered (.ok (none : Option Int64)) ∧
      replyTo (actions ++ [.register second]) (.ask Int64 1 "limit") =
        .answered (.ok (some (50 : Int64))) ∧
      replyTo actions (.evaluate Int64 "limit" c) = .answered (.ok (some (50 : Int64))) := by
  intro c first second actions
  obtain ⟨hregister, hsame, -, hevaluate, -, -⟩ := first_registration_run actions
  -- one resolver is made before the registration, and one after it
  obtain ⟨-, -, -, -, -, hearly⟩ := first_registration_run []
  obtain ⟨-, -, -, -, -, hlate⟩ := first_registration_run [.makeResolver c, .register first]
  obtain ⟨context, hcontext, hearly⟩ := hearly (.makeResolver c) 0 rfl
  obtain ⟨context', hcontext', hlate⟩ := hlate (.makeResolver c) 1 rfl
  cases hcontext
  cases hcontext'
  have hnone : answer (α := Int64) "limit" c = .ok none := by decide +kernel
  have hsome : answer (α := Int64) "limit" (c.withRegistry first) = .ok (some 50) := by
    decide +kernel
  refine ⟨hregister second, hsame second rfl, ?_, ?_, ?_⟩
  · rw [← hnone]
    exact ((hearly [.register first, .makeResolver c, .register second]).2 Int64 "limit").1
  · rw [← hsome]
    exact ((hlate [.register second]).2 Int64 "limit").1
  · rw [← hsome]
    exact hevaluate Int64 "limit" c

end Program
end ExprLang
