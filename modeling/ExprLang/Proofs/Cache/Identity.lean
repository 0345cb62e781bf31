import ExprLang.Proofs.Cache.History

/-!
# One instance for each text

Between two clears, a text has at most one living instance among those handed out for it, and every
request for the text answers that one.  Instances die and are made anew, they are pushed out while
somebody holds them and come back with the next request, and the index is swept in between; what stays
true through all of this is that a living instance is the one in the index.

## Main definitions

* `Cache.Coherent c obtained` — how the state of a cache and the instances handed out by it agree.

## Main results

* `Cache.coherent_run` — they agree after every run.
* `Cache.identity_run` — **requests answer the living instance**.

## References

`SPEC_FULL.md`, 8, on cache identity, and 10.3.
-/

namespace ExprLang
namespace Cache

/-- How a cache and the instances handed out by it, each with its text, agree. -/
structure Coherent (c : Cache) (obtained : List (String × Instance)) : Prop where
  /-- The index knows nothing but what was handed out. -/
  known : ∀ p ∈ c.index, p ∈ obtained
  numbered : ∀ p ∈ obtained, p.2.id < c.nextId
  /-- A number belongs to one instance and one text. -/
  distinct : ∀ p ∈ obtained, ∀ q ∈ obtained, p.2.id = q.2.id → p = q
  /-- A living instance is the one in the index. -/
  current : ∀ p ∈ obtained, c.isAlive p.2 → c.index.get? p.1 = some p.2
  retained : ∀ p ∈ c.retained, c.index.get? p.1 = some p.2

variable {c c' : Cache} {obtained : List (String × Instance)} {text : String} {i : Instance}

namespace Coherent

theorem start (config : CacheConfig) : Coherent (Cache.start config) [] where
  known := by simp [Cache.start]
  numbered := by simp
  distinct := by simp
  current := by simp
  retained := by simp [Cache.start]

/-! ### Steps -/

/-- Where the index stays as it is, nothing may come to life that is not in it. -/
theorem frame (h : Coherent c obtained) (hindex : c'.index = c.index) (hnext : c'.nextId = c.nextId)
    (halive : ∀ p ∈ obtained, c'.isAlive p.2 → c.isAlive p.2 ∨ c.index.get? p.1 = some p.2)
    (hretained : ∀ p ∈ c'.retained, p ∈ c.retained ∨ c.index.get? p.1 = some p.2) :
    Coherent c' obtained where
  known := by
    rw [hindex]
    exact h.known
  numbered := by
    rw [hnext]
    exact h.numbered
  distinct := h.distinct
  -- an instance that lives has lived before, or is the one that the index has for its text
  current := by
    intro p hp hlives
    rw [hindex]
    rcases halive p hp hlives with hlives | hget
    · exact h.current p hp hlives
    · exact hget
  retained := by
    intro p hp
    rw [hindex]
    rcases hretained p hp with hp | hget
    · exact h.retained p hp
    · exact hget

/-- What is in the index was handed out for its text. -/
theorem mem_obtained (h : Coherent c obtained) (hget : c.index.get? text = some i) :
    (text, i) ∈ obtained :=
  h.known _ (Entries.mem_of_get? hget)

/-- The number of an instance in the index belongs to nothing else. -/
theorem get?_of_id_eq (h : Coherent c obtained) (hget : c.index.get? text = some i)
    {p : String × Instance} (hp : p ∈ obtained) (hid : p.2.id = i.id) :
    c.index.get? p.1 = some p.2 := by
  rw [h.distinct p hp (text, i) (h.mem_obtained hget) hid]
  exact hget

/-- To hand out the instance in the index once more changes nothing. -/
theorem handOut (h : Coherent c obtained) (hget : c.index.get? text = some i) :
    Coherent c ((text, i) :: obtained) := by
  have hmem : ∀ p, p ∈ (text, i) :: obtained ↔ p ∈ obtained := by
    intro p
    rw [List.mem_cons]
    refine or_iff_right_of_imp ?_
    rintro rfl
    exact h.mem_obtained hget
  constructor
  · simpa only [hmem] using h.known
  · simpa only [hmem] using h.numbered
  · simpa only [hmem] using h.distinct
  · simpa only [hmem] using h.current
  · exact h.retained

theorem countHit (h : Coherent c obtained) : Coherent c.countHit obtained :=
  h.frame rfl rfl (fun _ _ halive => .inl halive) fun _ hp => .inl hp

theorem countMiss (h : Coherent c obtained) : Coherent c.countMiss obtained :=
  h.frame rfl rfl (fun _ _ halive => .inl halive) fun _ hp => .inl hp

theorem touch (h : Coherent c obtained) (hget : c.index.get? text = some i) :
    Coherent (c.touch text i) obtained := by
  refine h.frame rfl rfl (fun p hp halive => ?_) fun p hp => ?_
  · exact (isAlive_of_touch halive).imp_right (h.get?_of_id_eq hget hp)
  · refine (Recent.mem_or_eq_of_mem_refresh hp).imp_right ?_
    rintro rfl
    exact hget

theorem give (h : Coherent c obtained) (hget : c.index.get? text = some i)
    (holder : Option String) : Coherent (c.give i holder) obtained := by
  refine h.frame index_give nextId_give (fun p hp halive => ?_) fun p hp => .inl ?_
  · exact (isAlive_of_give halive).imp_right (h.get?_of_id_eq hget hp)
  · rwa [retained_give] at hp

theorem release (h : Coherent c obtained) (holder : String) :
    Coherent (c.release holder) obtained :=
  h.frame rfl rfl (fun _ _ halive => .inl (isAlive_of_release halive)) fun _ hp => .inl hp

theorem sweepExcept (h : Coherent c obtained) (fresh : Option Instance) :
    Coherent (c.sweepExcept fresh) obtained where
  known p hp := h.known p (mem_index_of_mem_sweepExcept hp)
  numbered := h.numbered
  distinct := h.distinct
  current p hp halive := get?_sweepExcept (h.current p hp halive) (.inl halive)
  retained p hp := get?_sweepExcept (h.retained p hp) (.inl (isAlive_of_mem_retained hp))

theorem clear (c : Cache) : Coherent c.clear [] where
  known := by simp [Cache.clear]
  numbered := by simp
  distinct := by simp
  current := by simp
  retained := by simp [Cache.clear]

/-- A new instance takes the place of one that has died. -/
theorem made (h : Coherent c obtained) (hmiss : c.live? text = none) (compiled : Compiled) :
    Coherent (c.numbered.store text ⟨c.nextId, compiled⟩)
      ((text, ⟨c.nextId, compiled⟩) :: obtained) := by
  -- the number is a new one, so the new instance brings nothing else to life
  have halive : ∀ p ∈ obtained, (c.numbered.store text ⟨c.nextId, compiled⟩).isAlive p.2 →
      c.isAlive p.2 := by
    intro p hp hlives
    refine (isAlive_of_store hlives).resolve_right fun hid => ?_
    exact Nat.ne_of_lt (h.numbered p hp) hid
  -- and what lives is not for this text
  have hstays : ∀ p : String × Instance, c.index.get? p.1 = some p.2 → c.isAlive p.2 →
      (c.numbered.store text ⟨c.nextId, compiled⟩).isAlive p.2 →
      (c.numbered.store text ⟨c.nextId, compiled⟩).index.get? p.1 = some p.2 := by
    intro p hget hlived hlives
    refine get?_store ?_ hget hlives
    rintro rfl
    exact get?_ne_of_live?_eq_none hmiss hlived hget
  constructor
  case known =>
    intro p hp
    rcases mem_or_eq_of_mem_index_store hp with hp | rfl
    · exact List.mem_cons_of_mem _ (h.known p hp)
    · exact List.mem_cons_self
  case numbered =>
    intro p hp
    rw [nextId_store]
    rcases List.mem_cons.mp hp with rfl | hp
    · exact Nat.lt_succ_self _
    · exact Nat.lt_succ_of_lt (h.numbered p hp)
  case distinct =>
    intro p hp q hq hid
    rcases List.mem_cons.mp hp with rfl | hp <;> rcases List.mem_cons.mp hq with rfl | hq
    · rfl
    · exact absurd hid.symm (Nat.ne_of_lt (h.numbered q hq))
    · exact absurd hid (Nat.ne_of_lt (h.numbered p hp))
    · exact h.distinct p hp q hq hid
  case current =>
    intro p hp hlives
    rcases List.mem_cons.mp hp with rfl | hp
    · exact get?_store_self
    · have hlived := halive p hp hlives
      exact hstays p (h.current p hp hlived) hlived hlives
  case retained =>
    intro p hp
    have hlives := isAlive_of_mem_retained hp
    rw [retained_store] at hp
    rcases Recent.mem_or_eq_of_mem_add hp with hp | rfl
    · exact hstays p (h.retained p hp) (isAlive_of_mem_retained hp) hlives
    · exact get?_store_self

end Coherent

theorem Step.coherent {a : Action} {r : Reply} {h : History} (limit : Option Nat)
    (hstep : Step c a r c') (henabled : c.config.enabled) (hc : Coherent c h.obtained) :
    Coherent c' (h.record limit a r).obtained := by
  cases hstep with
  | served holder h =>
    cases h with
    -- in every case the instance given out is the one that the index has by then
    | hit _ hlive =>
      have hget := (live?_eq_some_iff.mp hlive).1
      exact ((hc.handOut hget).touch hget).countHit.give hget holder
    | made _ hmiss hok => exact (hc.made hmiss _).give get?_store_self holder
    | uncached hdisabled => exact absurd henabled hdisabled
  | refused holder h =>
    cases h with
    | rejected => exact hc.countMiss
  | got holder hlive =>
    have hget := (live?_eq_some_iff.mp hlive).1
    exact ((hc.handOut hget).touch hget).give hget holder
  | absent => exact hc
  | released holder => exact hc.release holder
  | swept => exact hc.sweepExcept Option.none
  | cleared => exact .clear c

theorem coherent_run {config : CacheConfig} (henabled : config.enabled) (actions : List Action) :
    Coherent ((start config).run actions) (historyOf config actions).obtained := by
  refine run_induction (P := fun _ c h => Coherent c h.obtained) (.start config) ?_ actions
  intro actions c h a r c' hconfig hstep hc
  exact hstep.coherent _ (by rw [hconfig, henabled]) hc

/-! ### Living instances -/

theorem Coherent.live?_of_retained (h : Coherent c obtained) {p : String × Instance}
    (hp : p ∈ c.retained) : c.live? p.1 = some p.2 :=
  live?_eq_some_iff.mpr ⟨h.retained p hp, isAlive_of_mem_retained hp⟩

theorem Coherent.live?_of_obtained (h : Coherent c obtained) {p : String × Instance}
    (hp : p ∈ obtained) (halive : c.isAlive p.2) : c.live? p.1 = some p.2 :=
  live?_eq_some_iff.mpr ⟨h.current p hp halive, halive⟩

/-- What a request for a text with a living instance answers and changes. -/
structure AnswersLiving (c : Cache) (text : String) (i : Instance) : Prop where
  get : (c.get text).1 = some i
  compile : (c.compile text).1 = .ok i
  hits : (c.compile text).2.hits = c.hits + 1
  misses : (c.compile text).2.misses = c.misses
  /-- No instance is made. -/
  nextId : (c.compile text).2.nextId = c.nextId

theorem answersLiving_of_live? (henabled : c.config.enabled) (hlive : c.live? text = some i) :
    AnswersLiving c text i := by
  constructor
  case get => rw [get_of_live? hlive]
  all_goals rw [compile_of_live? henabled hlive]
  all_goals rfl

/-- **Requests answer the living instance.**  After any run of a cache that is used, every retained
instance is the living one of its text in the index.  An instance that was handed out for a text is
what each later request for the text answers, as long as it is held or retained and until everything
is cleared.  So no text has two of them. -/
theorem identity_run (config : CacheConfig) (henabled : config.enabled) (actions : List Action) :
    let c := (start config).run actions
    let obtained := (historyOf config actions).obtained
    (∀ p ∈ c.retained, c.live? p.1 = some p.2) ∧
      (∀ p ∈ obtained, ∀ later, Action.clear ∉ later → (c.run later).isAlive p.2 →
        AnswersLiving (c.run later) p.1 p.2) ∧
      ∀ p ∈ obtained, ∀ q ∈ obtained, p.1 = q.1 → c.isAlive p.2 → c.isAlive q.2 → p.2 = q.2 := by
  intro c obtained
  have hcoherent : Coherent c obtained := coherent_run henabled actions
  refine ⟨fun p hp => hcoherent.live?_of_retained hp, ?_, ?_⟩
  · intro p hp later hlater halive
    -- what was obtained before a clearing is still obtained behind more actions
    have hcoherent' := coherent_run henabled (actions ++ later)
    rw [run_append, historyOf, historyFrom_append] at hcoherent'
    have hp' := obtained_subset_historyFrom c (historyOf config actions) hlater hp
    have henabled' : (c.run later).config.enabled := by
      rw [config_run, config_run]
      exact henabled
    exact answersLiving_of_live? henabled' (hcoherent'.live?_of_obtained hp' halive)
  · intro p hp q hq htext hp' hq'
    -- both are the one instance that the index answers with
    have hlive := hcoherent.live?_of_obtained hp hp'
    rw [htext, hcoherent.live?_of_obtained hq hq'] at hlive
    exact (Option.some.inj hlive).symm

/-- An instance is pushed out while it is held, and its text asked for again after a sweep. -/
theorem answersLiving_of_evicted :
    AnswersLiving (((start ⟨true, some 1, 1⟩).run [.compile "a" (some "first")]).run
      [.compile "b" none, .sweep]) "a" ⟨0, "a", .identifier "a"⟩ :=
  (identity_run ⟨true, some 1, 1⟩ rfl [.compile "a" (some "first")]).2.1
    ("a", ⟨0, "a", .identifier "a"⟩) (by decide +kernel) [.compile "b" none, .sweep] (by decide)
    (by decide +kernel)

end Cache
end ExprLang
