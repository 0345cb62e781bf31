import ExprLang.Proofs.Cache.History
import ExprLang.Request

/-!
# The cache cannot be seen

Whatever has happened to a cache, and however it is configured, a request answers what reading the
text afresh would answer.  The reason is that every entry of the index, whether its instance lives or
not, holds what its text is read as; an entry is made in no other way than by reading its text.

## Main definitions

* `Cache.Faithful` — every entry holds what its text is read as.

## Main results

* `Cache.faithful_run` — a cache is faithful after every run.
* `Cache.compile_get_evaluate_run` — **requests answer as they would without a cache**.

## References

`SPEC_FULL.md`, 3 and 4.1: a compiled form is reused and never changed.
-/

namespace ExprLang
namespace Cache

variable {c c' : Cache} {text : String}

/-- Every entry of the index holds what its text is read as. -/
def Faithful (c : Cache) : Prop := ∀ p ∈ c.index, Compiled.ofText p.1 = .ok p.2.compiled

/-! ### Steps -/

/-- Where no entry comes in, nothing can become wrong. -/
theorem Faithful.of_subset (h : Faithful c) (hindex : c'.index ⊆ c.index) : Faithful c' :=
  fun p hp => h p (hindex hp)

theorem faithful_start (config : CacheConfig) : Faithful (start config) := by
  intro p hp
  cases hp

theorem Compilation.faithful {r : Except ParseError Instance} (h : Compilation c text r c')
    (hc : Faithful c) : Faithful c' := by
  cases h with
  | hit | rejected | uncached => exact hc
  | made henabled hmiss hok =>
    intro p hp
    rcases mem_or_eq_of_mem_index_store hp with hp | rfl
    · exact hc p hp
    · exact hok

theorem Step.faithful {a : Action} {r : Reply} (h : Step c a r c') (hc : Faithful c) :
    Faithful c' := by
  cases h with
  | served holder h => exact (h.faithful hc).of_subset (by rw [index_give]; exact fun _ hp => hp)
  | refused holder h => exact h.faithful hc
  | got holder hlive => exact hc.of_subset (by rw [index_give]; exact fun _ hp => hp)
  | absent | released => exact hc
  | swept => exact hc.of_subset fun _ hp => mem_index_of_mem_sweepExcept hp
  | cleared =>
    intro p hp
    cases hp

theorem faithful_run (config : CacheConfig) (actions : List Action) :
    Faithful ((start config).run actions) :=
  run_induction (P := fun _ c _ => Faithful c) (faithful_start config)
    (fun _ hstep hc => hstep.faithful hc) actions

/-! ### Requests -/

/-- A living instance is what its text is read as. -/
theorem Faithful.ofText_of_live? (h : Faithful c) {i : Instance} (hlive : c.live? text = some i) :
    Compiled.ofText text = .ok i.compiled :=
  h (text, i) (Entries.mem_of_get? (live?_eq_some_iff.mp hlive).1)

theorem Faithful.compile (h : Faithful c) (text : String) :
    (c.compile text).1.map Instance.compiled = Compiled.ofText text := by
  have hcases := compile_compilation c text
  revert hcases
  generalize (c.compile text).1 = r
  generalize (c.compile text).2 = c'
  intro hcases
  cases hcases with
  | hit henabled hlive => exact (h.ofText_of_live? hlive).symm
  | rejected hmiss herror => exact herror.symm
  | made henabled hmiss hok => exact hok.symm
  | uncached hdisabled hok => exact hok.symm

theorem Faithful.get (h : Faithful c) {i : Instance} (hget : (c.get text).1 = some i) :
    Compiled.ofText text = .ok i.compiled := by
  cases hlive : c.live? text with
  | none =>
    rw [get_of_live?_eq_none hlive] at hget
    cases hget
  | some j =>
    rw [get_of_live? hlive] at hget
    cases hget
    exact h.ofText_of_live? hlive

/-- The answer to a request for a value depends on what the text is compiled to, and on nothing else
in the cache. -/
theorem run_evaluate {α : Type} [Coercible α] (context : Context) (c : Cache) :
    ((Request.evaluate text context : Request (Option α)).run.run c).1 =
      match (c.compile text).1.map Instance.compiled with
      | .ok compiled => .ok (compiled.evaluate? context)
      | .error e => .error (.compile text e) := by
  show (((Request.compile text >>= fun i => pure (i.compiled.evaluate? context)) :
    Request (Option α)).run.run c).1 = _
  rw [Request.run_bind, Request.run_compile]
  rcases c.compile text with ⟨_ | _, _⟩ <;> rfl

/-- **Requests answer as they would without a cache.**  After any run, with any configuration, a
text is compiled to what it is read as; an instance that is there for a text is what the text is read
as; and the value of a text is the one that a new cache that is not used would lead to. -/
theorem compile_get_evaluate_run (config : CacheConfig) (actions : List Action) (text : String) :
    let c := (start config).run actions
    (c.compile text).1.map Instance.compiled = Compiled.ofText text ∧
      (∀ i, (c.get text).1 = some i →
        i.compiled.source = text ∧ Compiled.ofText text = .ok i.compiled) ∧
      ∀ (α : Type) [Coercible α] (context : Context) (other : CacheConfig),
        ((Request.evaluate text context : Request (Option α)).run.run c).1 =
          ((Request.evaluate text context : Request (Option α)).run.run
            (start { other with enabled := false })).1 := by
  intro c
  have hc : Faithful c := faithful_run config actions
  refine ⟨hc.compile text, fun i hget => ?_, fun α _ context other => ?_⟩
  · have hok := hc.get hget
    exact ⟨Compiled.source_of_ofText hok, hok⟩
  · have hother : Faithful (start { other with enabled := false }) := faithful_start _
    rw [run_evaluate, run_evaluate, hc.compile text, hother.compile text]

/-- An instance that its holder alone kept alive is what its text is read as. -/
theorem get_run_of_evicted :
    ∃ i, (((start ⟨true, some 1, 1⟩).run
        [.compile "a" (some "first"), .compile "b + 1" none, .sweep]).get "a").1 = some i ∧
      i.compiled.source = "a" ∧ Compiled.ofText "a" = .ok i.compiled := by
  have hsome : (((start ⟨true, some 1, 1⟩).run
      [.compile "a" (some "first"), .compile "b + 1" none, .sweep]).get "a").1.isSome := by
    decide +kernel
  obtain ⟨i, hget⟩ := Option.isSome_iff_exists.mp hsome
  exact ⟨i, hget, (compile_get_evaluate_run _ _ _).2.1 i hget⟩

end Cache
end ExprLang
