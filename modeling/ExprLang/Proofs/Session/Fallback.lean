import ExprLang.Proofs.Parser.Refusal
import ExprLang.Proofs.Session.Answer

/-!
# Values with a default

Three things can go wrong with a text, and a resolver that has a default treats each in its own way.
Where there is no text to speak of, it does not even look at the cache.  Where the text cannot be read,
it says so, and the default is of no use.  Where the text has no value, for whatever reason, the default
takes its place: no error of an evaluation or of a coercion comes out of a resolver.

That a default runs once or not at all is said by equations between actions: an outcome that is the
default with something done to its result is one run of it, and a pure outcome is none.

## Main definitions

* `Compiled.HasValue` — what an expression evaluates to is something, and is of the wanted type.

## Main results

* `Compiled.evaluate?_eq_some_iff` — a value is found where there is one.
* `Cache.Faithful.resolveOrDefault_of_value` and its like — each of the cases.
* `Cache.Faithful.resolveOrDefault_eq_ok_iff`, `Cache.Faithful.resolveOrDefault_eq_error_iff` — where
  an answer comes from.
* `Resolver.fallback_run` — **a default is used where there is no value, and only there**.

## References

`SPEC_FULL.md`, 4.4 and 8; the reference's `resolve_or_default`.
-/

namespace ExprLang

variable {α : Type} [Coercible α] {text : String} {context : Context}

/-! ### Values of expressions -/

namespace Compiled

variable {compiled : Compiled} {a : α}

/-- What the expression evaluates to is not null, and as one of the type `α` it is `a`. -/
def HasValue (compiled : Compiled) (context : Context) (a : α) : Prop :=
  ∃ v, compiled.tree.eval context = .ok v ∧ v ≠ .null ∧ Coercible.ofValue v = .ok a

theorem evaluate?_of_hasValue (h : compiled.HasValue context a) :
    compiled.evaluate? context = some a := by
  obtain ⟨v, heval, hnull, hvalue⟩ := h
  unfold evaluate?
  rw [heval]
  split
  · next h => exact absurd (Except.ok.inj h) hnull
  · next h =>
    cases h
    rw [hvalue]
    rfl
  · next h => cases h

theorem hasValue_of_evaluate? (h : compiled.evaluate? context = some a) :
    compiled.HasValue context a := by
  unfold evaluate? at h
  split at h
  · cases h
  · next v hnull heval =>
    refine ⟨v, heval, fun hv => hnull (hv ▸ rfl), ?_⟩
    cases hvalue : (Coercible.ofValue v : Except ConversionError α) with
    | ok b =>
      rw [hvalue] at h
      cases h
      rfl
    | error e =>
      rw [hvalue] at h
      cases h
  · cases h

/-- A value is found where there is one. -/
theorem evaluate?_eq_some_iff :
    compiled.evaluate? context = some a ↔ compiled.HasValue context a :=
  ⟨hasValue_of_evaluate?, evaluate?_of_hasValue⟩

theorem evaluate?_eq_none_iff :
    (compiled.evaluate? context : Option α) = none ↔
      ∀ a : α, ¬ compiled.HasValue context a := by
  rw [Option.eq_none_iff_forall_ne_some]
  exact forall_congr' fun a => not_congr evaluate?_eq_some_iff

/-- A text that can be read is not blank. -/
theorem not_isBlankText_of_ofText (hok : ofText text = .ok compiled) :
    isBlankText text = false := by
  refine Bool.eq_false_iff.mpr fun hblank => ?_
  have hempty := parse_eq_emptyExpression_iff.mpr hblank
  rw [parse_of_ofText hok] at hempty
  cases hempty

end Compiled

/-! ### The cases -/

namespace Cache

variable {m : Type → Type} [Monad m] [LawfulMonad m] {c : Cache}

/-- What is answered depends on the text and on the context; what is left behind is the cache after the
text was compiled. -/
theorem Faithful.resolveOrDefault_eq (h : c.Faithful) (r : Resolver) (default : m α)
    (hblank : isBlankText text = false) :
    r.resolveOrDefault (some text) default c =
      (fun result => (result, (c.compile text).2)) <$> orDefault default (answer text r.context) := by
  rw [r.resolveOrDefault_of_not_blank default c hblank, h.run_get r]
  exact congrArg (fun cache => (fun result => (result, cache)) <$>
    orDefault default (answer text r.context)) c.cache_request

theorem Faithful.resolveOrDefault_of_error (h : c.Faithful) (r : Resolver) (default : m α)
    (hblank : isBlankText text = false) {e : ParseError} (herror : Compiled.ofText text = .error e) :
    r.resolveOrDefault (some text) default c =
      pure (.error (.compile text e), (c.compile text).2) := by
  rw [h.resolveOrDefault_eq r default hblank, answer_of_error herror]
  exact map_pure _ _

section Readable

variable {compiled : Compiled}

theorem Faithful.resolveOrDefault_of_value (h : c.Faithful) (r : Resolver) (default : m α)
    (hok : Compiled.ofText text = .ok compiled) {a : α} (ha : compiled.HasValue r.context a) :
    r.resolveOrDefault (some text) default c = pure (.ok a, (c.compile text).2) := by
  rw [h.resolveOrDefault_eq r default (Compiled.not_isBlankText_of_ofText hok), answer_of_ok hok,
    Compiled.evaluate?_of_hasValue ha]
  exact map_pure _ _

theorem Faithful.resolveOrDefault_of_nothing (h : c.Faithful) (r : Resolver) (default : m α)
    (hok : Compiled.ofText text = .ok compiled) (hnothing : ∀ a : α, ¬ compiled.HasValue r.context a) :
    r.resolveOrDefault (some text) default c =
      (fun a => (.ok a, (c.compile text).2)) <$> default := by
  rw [h.resolveOrDefault_eq r default (Compiled.not_isBlankText_of_ofText hok), answer_of_ok hok,
    Compiled.evaluate?_eq_none_iff.mpr hnothing]
  exact Functor.map_map _ _ _

end Readable

/-! With a default that is a plain value there are three outcomes. -/

theorem Faithful.resolveOrDefault_cases (h : c.Faithful) (r : Resolver) (text : Option String)
    (default : α) :
    let answer := (Id.run (r.resolveOrDefault text (pure default) c)).1
    ((∀ s, text = some s → isBlankText s = true) ∧ answer = .ok default) ∨
      (∃ s e, text = some s ∧ isBlankText s = false ∧ Compiled.ofText s = .error e ∧
        answer = .error (.compile s e)) ∨
      ∃ s compiled, text = some s ∧ Compiled.ofText s = .ok compiled ∧
        answer = .ok ((compiled.evaluate? r.context).getD default) := by
  intro answer
  -- the text is missing or blank, cannot be read, or has been read
  by_cases hblank : ∀ s, text = some s → isBlankText s = true
  · refine .inl ⟨hblank, ?_⟩
    show (Id.run (r.resolveOrDefault _ (pure default) c)).1 = _
    rw [r.resolveOrDefault_of_blank _ c hblank]
    rfl
  · push Not at hblank
    obtain ⟨s, rfl, hs⟩ := hblank
    have hs : isBlankText s = false := eq_false_of_ne_true hs
    cases hcompiled : Compiled.ofText s with
    | error e =>
      refine .inr (.inl ⟨s, e, rfl, hs, hcompiled, ?_⟩)
      show (Id.run (r.resolveOrDefault _ (pure default) c)).1 = _
      rw [h.resolveOrDefault_of_error r _ hs hcompiled]
      rfl
    | ok compiled =>
      refine .inr (.inr ⟨s, compiled, rfl, hcompiled, ?_⟩)
      show (Id.run (r.resolveOrDefault _ (pure default) c)).1 = _
      rw [h.resolveOrDefault_eq r _ hs, answer_of_ok hcompiled]
      cases (compiled.evaluate? r.context : Option α) <;> rfl

/-- An error comes out of a text that cannot be read, and out of nothing else. -/
theorem Faithful.resolveOrDefault_eq_error_iff (h : c.Faithful) (r : Resolver)
    (text : Option String) (a : α) (err : RequestError) :
    (Id.run (r.resolveOrDefault text (pure a) c)).1 = .error err ↔
      ∃ s e, text = some s ∧ isBlankText s = false ∧ Compiled.ofText s = .error e ∧
        err = .compile s e := by
  constructor
  · intro herr
    rcases h.resolveOrDefault_cases r text a with
      ⟨-, hanswer⟩ | ⟨s, e, htext, hs, herror, hanswer⟩ | ⟨s, compiled, -, -, hanswer⟩
    · cases hanswer.symm.trans herr
    · exact ⟨s, e, htext, hs, herror, Except.error.inj (herr.symm.trans hanswer)⟩
    · cases hanswer.symm.trans herr
  · rintro ⟨s, e, rfl, hs, herror, rfl⟩
    rw [h.resolveOrDefault_of_error r _ hs herror]
    rfl

/-- An answer that is not the default is the value of a text that can be read. -/
theorem Faithful.resolveOrDefault_eq_ok_iff (h : c.Faithful) (r : Resolver) (text : Option String)
    {a default : α} (hne : a ≠ default) :
    (Id.run (r.resolveOrDefault text (pure default) c)).1 = .ok a ↔
      ∃ s compiled, text = some s ∧ Compiled.ofText s = .ok compiled ∧
        compiled.HasValue r.context a := by
  constructor
  · intro ha
    rcases h.resolveOrDefault_cases r text default with
      ⟨-, hanswer⟩ | ⟨s, e, -, -, -, hanswer⟩ | ⟨s, compiled, htext, hok, hanswer⟩
    · exact absurd (Except.ok.inj (ha.symm.trans hanswer)) hne
    · cases hanswer.symm.trans ha
    · refine ⟨s, compiled, htext, hok, Compiled.hasValue_of_evaluate? ?_⟩
      have hvalue : (compiled.evaluate? r.context).getD default = a :=
        Except.ok.inj (hanswer.symm.trans ha)
      -- an answer that differs from the default is the value itself
      cases hevaluate : (compiled.evaluate? r.context : Option α) with
      | some b =>
        rw [hevaluate] at hvalue
        exact congrArg some hvalue
      | none =>
        rw [hevaluate] at hvalue
        exact absurd hvalue.symm hne
  · rintro ⟨s, compiled, rfl, hok, ha⟩
    rw [h.resolveOrDefault_of_value r _ hok ha]
    rfl

end Cache

/-! ### All texts -/

/-- **A default is used where there is no value, and only there.**  Whatever the context of a resolver
is, and whatever its cache was used for,

* for a text that is absent or blank the answer is the default, which runs once, and the cache stays as
  it is;
* for any other text that cannot be read the answer is the reason, which is never that there is nothing
  and which has nothing to do with the context, the type or the default; the default does not run;
* if a text that can be read has a value in the context, and one of the wanted type, then that is the
  answer, and the default does not run; in all other cases, whether the value is null, the evaluation
  fails or the coercion does, the answer is the default, which runs once;
* so an error always means a text that cannot be read. -/
theorem Resolver.fallback_run (config : CacheConfig) (uses : List Cache.Action) (r : Resolver)
    (α : Type) [Coercible α] (m : Type → Type) [Monad m] [LawfulMonad m] (default : m α) :
    let c := (Cache.start config).run uses
    (∀ text : Option String, (∀ s, text = some s → isBlankText s = true) →
      r.resolveOrDefault text default c = (fun a => (.ok a, c)) <$> default) ∧
    (∀ s e, isBlankText s = false → Compiled.ofText s = .error e → e ≠ .emptyExpression ∧
      r.resolveOrDefault (some s) default c = pure (.error (.compile s e), (c.compile s).2)) ∧
    (∀ s compiled, Compiled.ofText s = .ok compiled →
      (∀ a, compiled.HasValue r.context a →
        r.resolveOrDefault (some s) default c = pure (.ok a, (c.compile s).2)) ∧
      ((∀ a : α, ¬ compiled.HasValue r.context a) →
        r.resolveOrDefault (some s) default c =
          (fun a => (.ok a, (c.compile s).2)) <$> default)) ∧
    ∀ (text : Option String) (a : α) (err : RequestError),
      (Id.run (r.resolveOrDefault text (pure a) c)).1 = .error err ↔
        ∃ s e, text = some s ∧ isBlankText s = false ∧ Compiled.ofText s = .error e ∧
          err = .compile s e := by
  intro c
  have hc : c.Faithful := Cache.faithful_run config uses
  refine ⟨fun text hblank => r.resolveOrDefault_of_blank default c hblank,
    fun s e hs herror => ⟨?_, hc.resolveOrDefault_of_error r default hs herror⟩,
    fun s compiled hok => ⟨fun a ha => hc.resolveOrDefault_of_value r default hok ha,
      fun hnothing => hc.resolveOrDefault_of_nothing r default hok hnothing⟩,
    fun text a err => hc.resolveOrDefault_eq_error_iff r text a err⟩
  -- a text that is not blank is never called empty
  rintro rfl
  have hblank := parse_eq_emptyExpression_iff.mp (Compiled.ofText_eq_error_iff.mp herror)
  rw [hs] at hblank
  cases hblank

/-- One default that counts its calls, for a text with a value, for one whose evaluation fails, for one
that cannot be read and for one that is blank. -/
theorem Resolver.fallback_run_of_limit :
    let c := (Cache.start .small).run [.compile "limit * 2" (some "holder"), .clear]
    let r : Resolver := ⟨.ofPairs [("limit", .integer 10)]⟩
    let countCalls : StateM Nat Int64 := fun calls => pure (0, calls + 1)
    r.resolveOrDefault (some "limit * 2") countCalls c =
        pure (.ok 20, (c.compile "limit * 2").2) ∧
      r.resolveOrDefault (some "limit % 0") countCalls c =
        (fun a => (.ok a, (c.compile "limit % 0").2)) <$> countCalls ∧
      r.resolveOrDefault (some "limit *") countCalls c =
        pure (.error (.compile "limit *" (.unexpectedEnd .operand)), (c.compile "limit *").2) ∧
      r.resolveOrDefault (some " \t") countCalls c = (fun a => (.ok a, c)) <$> countCalls := by
  intro c r countCalls
  obtain ⟨hblank, hrefused, hread, -⟩ := Resolver.fallback_run .small
    [.compile "limit * 2" (some "holder"), .clear] r Int64 (StateM Nat) countCalls
  let product : Compiled :=
    ⟨"limit * 2", .binary .multiply (.identifier "limit") (.literal (.integer 2))⟩
  let remainder : Compiled :=
    ⟨"limit % 0", .binary .modulo (.identifier "limit") (.literal (.integer 0))⟩
  have hproduct : Compiled.ofText "limit * 2" = .ok product := by decide +kernel
  have hremainder : Compiled.ofText "limit % 0" = .ok remainder := by decide +kernel
  have herror : Compiled.ofText "limit *" = .error (.unexpectedEnd .operand) := by decide +kernel
  have hvalue : product.HasValue r.context (20 : Int64) :=
    Compiled.evaluate?_eq_some_iff.mp (by decide +kernel)
  have hnothing : ∀ n : Int64, ¬ remainder.HasValue r.context n :=
    Compiled.evaluate?_eq_none_iff.mp (by decide +kernel)
  -- a value, an evaluation that gives none, a refused text and a blank one
  refine ⟨(hread _ _ hproduct).1 20 hvalue, (hread _ _ hremainder).2 hnothing,
    (hrefused _ _ (by decide) herror).2, hblank _ fun s hs => ?_⟩
  cases hs
  decide

end ExprLang
