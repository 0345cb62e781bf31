import ExprLang.Proofs.Cache.Identity

/-!
# The retained texts are the latest

What a cache retains, and what its counters say, can be told from its history alone.  The retained
texts are those at the front of the list of all texts asked for with success, the latest first, as
many as there may be.  A use puts a text at the front of both, whether its entry is moved there, put
back for a text that only a holder kept alive, or entered anew.

## Main definitions

* `Cache.Recorded c h` — the history says what is retained and how many instances were pushed out.
* `Cache.Remembered c h text` — the text is retained, or somebody holds its instance.
* `Cache.Action.isCompile` — the action is a request to compile.

## Main results

* `Cache.recorded_run`, `Cache.hits_add_misses_run` — what holds after every run.
* `Cache.recency_run` — **a cache does what its history says**.

## References

`SPEC_FULL.md`, 10.3, on retained entries and counters.
-/

namespace ExprLang
namespace Cache

variable {c c' : Cache} {h : History} {text : String} {i : Instance}

/-! ### The retained texts -/

/-- The history says what is retained and how many instances were pushed out. -/
structure Recorded (c : Cache) (h : History) : Prop where
  retained : c.retained.keys = Recent.kept c.config.limit h.recency
  evictions : c.evictions = h.displaced

namespace Recorded

/-- Nothing else in a cache matters. -/
theorem frame (hc : Recorded c h) (hconfig : c'.config = c.config)
    (hretained : c'.retained = c.retained) (hevictions : c'.evictions = c.evictions) :
    Recorded c' h where
  retained := by rw [hretained, hconfig, hc.retained]
  evictions := by rw [hevictions, hc.evictions]

/-- A use does to the retained texts what it does to the history. -/
theorem handOut (hc : Recorded c h) (text : String) (i : Instance) (hconfig : c'.config = c.config)
    (hkeys : c'.retained.keys =
      Recent.namesAfter c.config.limit c.retained.keys text)
    (hevictions : c'.evictions = c.evictions +
      if Recent.Displaces c.config.limit c.retained.keys text then 1 else 0) :
    Recorded c' (h.handOut c.config.limit text i) where
  retained := by
    rw [hkeys, hconfig, hc.retained, History.recency_handOut,
      Recent.namesAfter_kept _ h.nodup_recency]
  evictions := by
    rw [hevictions, hc.evictions, hc.retained]
    rfl

theorem touch (hc : Recorded c h) (text : String) (i : Instance) :
    Recorded (c.touch text i) (h.handOut c.config.limit text i) := by
  refine hc.handOut text i config_touch ?_ ?_
  · rw [retained_touch, Recent.keys_refresh]
  · rw [evictions_touch, Recent.evictions_refresh]

theorem store (hc : Recorded c h) (text : String) (i : Instance) :
    Recorded (c.numbered.store text i) (h.handOut c.config.limit text i) := by
  refine hc.handOut text i config_store ?_ ?_
  · rw [retained_store, Recent.keys_add]
    rfl
  · rw [evictions_store, Recent.evictions_add]
    rfl

theorem countHit (hc : Recorded c h) : Recorded c.countHit h := hc.frame rfl rfl rfl

theorem give (hc : Recorded c h) (holder : Option String) : Recorded (c.give i holder) h :=
  hc.frame config_give retained_give evictions_give

end Recorded

theorem Step.recorded {a : Action} {r : Reply} (hstep : Step c a r c') (henabled : c.config.enabled)
    (hc : Recorded c h) : Recorded c' (h.record c.config.limit a r) := by
  cases hstep with
  | served holder h =>
    cases h with
    | hit _ hlive => exact (hc.touch _ _).countHit.give holder
    | made _ hmiss hok => exact (hc.store _ _).give holder
    | uncached hdisabled => exact absurd henabled hdisabled
  | refused holder h =>
    cases h with
    | rejected => exact hc.frame rfl rfl rfl
  | got holder hlive => exact (hc.touch _ _).give holder
  | absent => exact hc
  | released holder => exact hc.frame rfl rfl rfl
  | swept => exact hc.frame rfl rfl rfl
  | cleared =>
    constructor
    · -- of no texts none are at the front
      show [] = Recent.kept c.config.limit []
      cases c.config.limit <;> simp [Recent.kept]
    · exact hc.evictions

theorem recorded_start (config : CacheConfig) : Recorded (start config) .empty where
  retained := by
    show [] = Recent.kept config.limit []
    cases config.limit <;> simp [Recent.kept]
  evictions := rfl

theorem recorded_run {config : CacheConfig} (henabled : config.enabled) (actions : List Action) :
    Recorded ((start config).run actions) (historyOf config actions) := by
  refine run_induction (P := fun _ c h => Recorded c h) (recorded_start config) ?_ actions
  intro actions c h a r c' hconfig hstep hc
  rw [← hconfig]
  exact hstep.recorded (by rw [hconfig, henabled]) hc

/-! ### The counts of requests -/

/-- Whether an action is a request to compile. -/
def Action.isCompile : Action → Bool
  | .compile _ _ => true
  | _ => false

/-- Every request to compile is counted once, whatever it answers. -/
theorem Compilation.hits_add_misses {r : Except ParseError Instance}
    (h : Compilation c text r c') : c'.hits + c'.misses = c.hits + c.misses + 1 := by
  cases h with
  | hit => exact Nat.add_right_comm ..
  | rejected => rfl
  | made => rw [hits_store, misses_store]; rfl
  | uncached => rfl

/-- No other action is counted. -/
theorem Step.hits_add_misses {a : Action} {r : Reply} (hstep : Step c a r c') :
    c'.hits + c'.misses = c.hits + c.misses + [a].countP Action.isCompile := by
  cases hstep with
  | served holder h => rw [hits_give, misses_give, h.hits_add_misses]; rfl
  | refused holder h => rw [h.hits_add_misses]; rfl
  | got holder hlive => rw [hits_give, misses_give]; rfl
  | absent | released | swept | cleared => rfl

theorem hits_add_misses_run (config : CacheConfig) (actions : List Action) :
    ((start config).run actions).hits + ((start config).run actions).misses =
      actions.countP Action.isCompile := by
  refine run_induction (P := fun actions c _ => c.hits + c.misses = actions.countP Action.isCompile)
    rfl ?_ actions
  intro actions c h a r c' _ hstep hc
  rw [hstep.hits_add_misses, hc, List.countP_append]

theorem hits_get (c : Cache) (text : String) : (c.get text).2.hits = c.hits := by
  unfold get
  cases c.live? text <;> rfl

theorem misses_get (c : Cache) (text : String) : (c.get text).2.misses = c.misses := by
  unfold get
  cases c.live? text <;> rfl

/-! ### Hits -/

/-- The text is retained, or somebody holds an instance that was handed out for it. -/
def Remembered (c : Cache) (h : History) (text : String) : Prop :=
  text ∈ c.retained.keys ∨ ∃ i, (text, i) ∈ h.obtained ∧ isAmong i c.held

/-- A text has a living instance if it is remembered, and only then. -/
theorem Coherent.remembered_iff (hc : Coherent c h.obtained) :
    Remembered c h text ↔ ∃ i, c.live? text = some i := by
  constructor
  · rintro (hretained | ⟨i, hobtained, hheld⟩)
    · obtain ⟨i, hget⟩ := Entries.mem_keys_iff.mp hretained
      exact ⟨i, hc.live?_of_retained (Entries.mem_of_get? hget)⟩
    · exact ⟨i, hc.live?_of_obtained hobtained (isAlive_iff.mpr (.inr hheld))⟩
  · rintro ⟨i, hlive⟩
    obtain ⟨hget, halive⟩ := live?_eq_some_iff.mp hlive
    rcases isAlive_iff.mp halive with hretained | hheld
    · -- the retained instance has the number of this one, so it is retained for this text
      obtain ⟨p, hp, hid⟩ := isAmong_iff.mp hretained
      have hp' : p ∈ h.obtained := hc.mem_obtained (hc.retained p hp)
      have heq : p = (text, i) := hc.distinct p hp' (text, i) (hc.mem_obtained hget) hid
      subst heq
      exact .inl (Entries.mem_keys_of_mem hp)
    · exact .inr ⟨i, hc.mem_obtained hget, hheld⟩

/-- A request for a text without a living instance is a miss, also if the text cannot be read. -/
theorem Compilation.miss {r : Except ParseError Instance} (hcompile : Compilation c text r c')
    (hmiss : c.live? text = none) : c'.hits = c.hits ∧ c'.misses = c.misses + 1 := by
  cases hcompile with
  | hit _ hlive =>
    rw [hmiss] at hlive
    cases hlive
  | rejected => exact ⟨rfl, rfl⟩
  | made =>
    rw [hits_store, misses_store]
    exact ⟨rfl, rfl⟩
  | uncached => exact ⟨rfl, rfl⟩

/-- **A cache does what its history says.**  After any run of a cache that is used, the retained
texts in the order of their use are the latest ones asked for with success.  A request to compile is
a hit if the text is retained or somebody holds its instance, and a miss otherwise; together they are
the requests to compile, and a request that does not compile changes neither.  As many instances were
pushed out as texts came among the retained ones when there was no more room.  Taking everything out
changes no count. -/
theorem recency_run (config : CacheConfig) (henabled : config.enabled) (actions : List Action) :
    let c := (start config).run actions
    let h := historyOf config actions
    c.retained.keys = Recent.kept config.limit h.recency ∧
      (∀ text,
        Remembered c h text ∧ (c.compile text).2.hits = c.hits + 1 ∧
            (c.compile text).2.misses = c.misses ∨
          ¬ Remembered c h text ∧ (c.compile text).2.hits = c.hits ∧
            (c.compile text).2.misses = c.misses + 1) ∧
      c.hits + c.misses = actions.countP Action.isCompile ∧
      (∀ text, (c.get text).2.hits = c.hits ∧ (c.get text).2.misses = c.misses) ∧
      c.evictions = h.displaced ∧
      c.clear.hits = c.hits ∧ c.clear.misses = c.misses ∧ c.clear.evictions = c.evictions ∧
        c.clear.sweeps = c.sweeps := by
  intro c h
  have hrecorded : Recorded c h := recorded_run henabled actions
  have hcoherent : Coherent c h.obtained := coherent_run henabled actions
  have hconfig : c.config = config := config_run _ actions
  refine ⟨?_, fun text => ?_, hits_add_misses_run config actions,
    fun text => ⟨hits_get c text, misses_get c text⟩, hrecorded.evictions, rfl, rfl, rfl, rfl⟩
  · rw [hrecorded.retained, hconfig]
  · rw [hcoherent.remembered_iff]
    -- a text is remembered exactly if an instance of it is alive, and only then it is hit
    cases hlive : c.live? text with
    | some i =>
      have hhit := answersLiving_of_live? (by rw [hconfig, henabled]) hlive
      exact .inl ⟨⟨i, rfl⟩, hhit.hits, hhit.misses⟩
    | none => exact .inr ⟨by simp, (compile_compilation c text).miss hlive⟩

/-- A text that is pushed out and asked for again pushes out the one used least recently. -/
theorem recency_run_of_full :
    ((start ⟨true, some 2, 4⟩).run [.compile "a" none, .compile "b" (some "first"),
      .compile "a" none, .compile "c" none, .get "b" none]).retained.keys = ["b", "c"] := by
  rw [(recency_run ⟨true, some 2, 4⟩ rfl _).1]
  decide +kernel

end Cache
end ExprLang
