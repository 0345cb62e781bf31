import ExprLang.Proofs.Session.Answer

/-!
# Ways to ask

A value can be asked for in several ways: of the session itself, of a resolver for a context, of a
resolver for a call, with a default or without one.  Each of them attaches the shared registry at a
place of its own and in its own way, and each goes through a cache that has seen other requests in the
meantime.  None of that makes a difference: all of them answer what the text is in one context.

## Main results

* `Session.run_resolveOrDefault`, `Session.run_evaluateCall`, `Session.run_callResolver` — what is
  answered in each way.
* `Session.entry_points_agree` — **all ways lead to the same answer.**

## References

`SPEC_FULL.md`, 6 and 10.7.
-/

namespace ExprLang
namespace Session

variable {α : Type} [Coercible α] {s : Session} {text : String}

/-! ### Each way -/

theorem run_resolver (h : s.cache.Faithful) (text : String) (context : Context) :
    (((s.resolver context).get text : Request (Option α)).run.run s.cache).1 =
      answer text (s.withSharedRegistry context) :=
  h.run_get _

theorem run_resolveOrDefault {m : Type → Type} [Monad m] [LawfulMonad m] (h : s.cache.Faithful)
    (hblank : isBlankText text = false) (context : Context) (default : m α) :
    Prod.fst <$> s.resolveOrDefault (some text) context default =
      orDefault default (answer text (s.withSharedRegistry context)) := by
  refine Eq.trans ?_ (h.run_resolveOrDefault (s.resolver context) default hblank)
  rw [resolveOrDefault, map_bind]
  simp only [map_pure]
  exact bind_pure_comp _ _

theorem run_evaluateCall (h : s.cache.Faithful) (text : String) (call : Call) :
    (s.evaluateCall text call : Except RequestError (Option α) × Session).1 =
      answer text (s.withSharedRegistry (call.context .declared)) :=
  h.run_get _

theorem run_callResolver (h : s.cache.Faithful) (text : String) (call : Call) :
    (((s.callResolver call).get text : Request (Option α)).run.run s.cache).1 =
      answer text (s.withSharedRegistry (call.context .declared)) :=
  h.run_get _

theorem withSharedRegistry_of_registry {context : Context} {r : Registry}
    (h : context.registry = some r) (s : Session) : s.withSharedRegistry context = context :=
  Context.orRegistry_some context r _ h

/-! ### All ways -/

/-- **All ways lead to the same answer.**  Whatever is installed as the shared registry, and whatever
the shared cache has been used for before the one request and before the other:

* a value asked for in a context is the one that the resolver of the context finds;
* with a default it is the same value or the same error, and the default where there is none;
* a value asked for in a call is the one asked for in the context of the call, and the one that the
  resolver of the call finds;
* a context with a registry of its own is evaluated in just as it is. -/
theorem entry_points_agree (cell : RegistryCell) (config : CacheConfig)
    (uses uses' : List Cache.Action) (α : Type) [Coercible α] (text : String) :
    let s := afterUses cell config uses
    let s' := afterUses cell config uses'
    (∀ context : Context, (s.evaluate text context : Except RequestError (Option α) × Session).1 =
      (((s'.resolver context).get text).run.run s'.cache).1) ∧
    (isBlankText text = false →
      ∀ (context : Context) (m : Type → Type) [Monad m] [LawfulMonad m] (default : m α),
        Prod.fst <$> s'.resolveOrDefault (some text) context default =
          orDefault default (s.evaluate text context).1) ∧
    (∀ call : Call,
      (s.evaluateCall text call : Except RequestError (Option α) × Session).1 =
        (s'.evaluate text (call.context .declared)).1 ∧
      (s.evaluateCall text call : Except RequestError (Option α) × Session).1 =
        (((s'.callResolver call).get text).run.run s'.cache).1) ∧
    ∀ (context : Context) (r : Registry), context.registry = some r →
      (s.resolver context).context = context ∧
      (s.evaluate text context : Except RequestError (Option α) × Session).1 =
        answer text context := by
  intro s s'
  have hs : s.cache.Faithful := faithful_afterUses cell config uses
  have hs' : s'.cache.Faithful := faithful_afterUses cell config uses'
  -- the answer depends on the text and on the context with what is shared, and on no cache
  have hevaluate : ∀ context : Context,
      (s.evaluate text context : Except RequestError (Option α) × Session).1 =
        answer text (s'.withSharedRegistry context) := run_evaluate hs text
  refine ⟨fun context => ?_, fun hblank context m _ _ default => ?_, fun call => ⟨?_, ?_⟩,
    fun context r hr => ⟨withSharedRegistry_of_registry hr s, ?_⟩⟩
  · rw [hevaluate, run_resolver hs']
  · rw [hevaluate, run_resolveOrDefault hs' hblank]
  · rw [run_evaluateCall hs, run_evaluate hs']
    rfl
  · rw [run_evaluateCall hs, run_callResolver hs']
    rfl
  · rw [hevaluate, withSharedRegistry_of_registry hr]

/-- Where a context has a registry of its own, the shared one is not asked, and neither is a default. -/
theorem entry_points_agree_of_own_registry :
    let shared : RegistryCell := ⟨some (.ofEntries [("limit", .integer 999)])⟩
    let own : Context := Context.empty.withRegistry (.ofEntries [("limit", .integer 7)])
    let s := afterUses shared .small [.compile "limit" (some "holder"), .clear]
    let countCalls : StateM Nat Int64 := fun calls => (0, calls + 1)
    isBlankText "limit" = false ∧
      (s.evaluate "limit" own).1 = .ok (some (7 : Int64)) ∧
      Prod.fst <$> s.resolveOrDefault (some "limit") own countCalls = pure (.ok 7) := by
  intro shared own s countCalls
  have hblank : isBlankText "limit" = false := by decide
  obtain ⟨-, hdefault, -, hown⟩ := entry_points_agree shared .small
    [.compile "limit" (some "holder"), .clear] [.compile "limit" (some "holder"), .clear] Int64 "limit"
  have hanswer : answer "limit" own = .ok (some (7 : Int64)) := by decide +kernel
  have hevaluate := ((hown own _ rfl).2).trans hanswer
  refine ⟨hblank, hevaluate, ?_⟩
  rw [hdefault hblank own (StateM Nat) countCalls, hevaluate]
  rfl

end Session
end ExprLang
