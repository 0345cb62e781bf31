import ExprLang.Cache.Run
import ExprLang.Proofs.Cache.Recent

/-!
# Steps of a cache

What one action can do to a cache, case by case, so that what every action preserves is shown by going
through the cases once.

An instance lives by its number alone, so it is enough to know which numbers an action brings among
the retained and the held instances: at most that of the instance it answers.

## Main definitions

* `Cache.store` — the state in which a new instance has been entered.
* `Cache.Compilation c text r c'` — a request to compile can answer `r` and leave `c'` behind.
* `Cache.Step c a r c'` — the same for any action.

## Main results

* `Cache.compile_compilation`, `Cache.perform_step` — these are all cases.
* `Cache.get?_store_self`, `Cache.get?_store` — what a new instance leaves in the index.
-/

namespace ExprLang
namespace Cache

variable {c c' : Cache} {text : String} {i j : Instance} {fresh : Option Instance}

/-! ### Life -/

theorem isAmong_iff {entries : Entries Instance} :
    isAmong i entries ↔ ∃ p ∈ entries, p.2.id = i.id := by
  simp [isAmong]

theorem isAlive_iff : c.isAlive i ↔ isAmong i c.retained ∨ isAmong i c.held := by
  simp [isAlive]

theorem isAlive_of_mem_retained {p : String × Instance} (h : p ∈ c.retained) : c.isAlive p.2 :=
  isAlive_iff.mpr (.inl (isAmong_iff.mpr ⟨p, h, rfl⟩))

theorem live?_eq_some_iff :
    c.live? text = some i ↔ c.index.get? text = some i ∧ c.isAlive i := by
  simp [live?, Option.filter_eq_some_iff]

/-- A text without a living instance has none that is retained. -/
theorem get?_ne_of_live?_eq_none (h : c.live? text = none) (halive : c.isAlive i) :
    c.index.get? text ≠ some i := by
  intro hget
  rw [live?_eq_some_iff.mpr ⟨hget, halive⟩] at h
  cases h

/-! ### What a use changes -/

@[simp] theorem config_touch : (c.touch text i).config = c.config := rfl

@[simp] theorem retained_touch : (c.touch text i).retained =
    (Recent.refresh c.config.limit c.retained text i).entries := rfl

@[simp] theorem evictions_touch : (c.touch text i).evictions =
    c.evictions + (Recent.refresh c.config.limit c.retained text i).evictions := rfl

/-- A use brings no other instance to life than the one that is used. -/
theorem isAlive_of_touch (h : (c.touch text i).isAlive j) : c.isAlive j ∨ j.id = i.id := by
  rcases isAlive_iff.mp h with h | h
  · obtain ⟨p, hp, hid⟩ := isAmong_iff.mp h
    rcases Recent.mem_or_eq_of_mem_refresh hp with hp | rfl
    · exact .inl (isAlive_iff.mpr (.inl (isAmong_iff.mpr ⟨p, hp, hid⟩)))
    · exact .inr hid.symm
  · exact .inl (isAlive_iff.mpr (.inr h))

/-! ### What a holder changes -/

@[simp] theorem config_give {holder : Option String} : (c.give i holder).config = c.config := by
  cases holder <;> rfl

@[simp] theorem index_give {holder : Option String} : (c.give i holder).index = c.index := by
  cases holder <;> rfl

@[simp] theorem retained_give {holder : Option String} :
    (c.give i holder).retained = c.retained := by
  cases holder <;> rfl

@[simp] theorem nextId_give {holder : Option String} : (c.give i holder).nextId = c.nextId := by
  cases holder <;> rfl

@[simp] theorem hits_give {holder : Option String} : (c.give i holder).hits = c.hits := by
  cases holder <;> rfl

@[simp] theorem misses_give {holder : Option String} : (c.give i holder).misses = c.misses := by
  cases holder <;> rfl

@[simp] theorem evictions_give {holder : Option String} :
    (c.give i holder).evictions = c.evictions := by
  cases holder <;> rfl

/-- A holder brings no other instance to life than the one it is given. -/
theorem isAlive_of_give {holder : Option String} (h : (c.give i holder).isAlive j) :
    c.isAlive j ∨ j.id = i.id := by
  cases holder with
  | none => exact .inl h
  | some name =>
    rcases isAlive_iff.mp h with h | h
    · exact .inl (isAlive_iff.mpr (.inl h))
    · obtain ⟨p, hp, hid⟩ := isAmong_iff.mp h
      rcases List.mem_append.mp hp with hp | hp
      · have hold : p ∈ c.held := (Entries.mem_erase.mp hp).1
        exact .inl (isAlive_iff.mpr (.inr (isAmong_iff.mpr ⟨p, hold, hid⟩)))
      · obtain rfl := List.mem_singleton.mp hp
        exact .inr hid.symm

theorem isAlive_of_release {holder : String} (h : (c.release holder).isAlive j) : c.isAlive j := by
  rcases isAlive_iff.mp h with h | h
  · exact isAlive_iff.mpr (.inl h)
  · obtain ⟨p, hp, hid⟩ := isAmong_iff.mp h
    exact isAlive_iff.mpr (.inr (isAmong_iff.mpr ⟨p, (Entries.mem_erase.mp hp).1, hid⟩))

/-! ### What a sweep changes -/

theorem mem_index_of_mem_sweepExcept {p : String × Instance} (h : p ∈ (c.sweepExcept fresh).index) :
    p ∈ c.index :=
  List.mem_of_mem_filter h

/-- A sweep leaves the living where they are. -/
theorem get?_sweepExcept (h : c.index.get? text = some i) (hstays : c.isAlive i ∨ fresh = some i) :
    (c.sweepExcept fresh).index.get? text = some i := by
  refine Entries.get?_filter h ?_
  rcases hstays with halive | rfl
  · simp [halive]
  · simp

/-! ### New instances -/

/-- The state in which a new instance has been entered for a text. -/
def store (c : Cache) (text : String) (i : Instance) : Cache :=
  ({ c with index := c.index.insert text i }.retain text i).sweepIfDue i

section Store

/-- The state before a sweep. -/
private theorem store_eq (c : Cache) (text : String) (i : Instance) :
    let c₁ := { c with index := c.index.insert text i }.retain text i
    c.store text i = c₁ ∨ c.store text i = c₁.sweepExcept (some i) := by
  unfold store sweepIfDue
  split
  · exact .inr rfl
  · exact .inl rfl

@[simp] theorem config_store : (c.store text i).config = c.config := by
  rcases store_eq c text i with h | h <;> rw [h] <;> rfl

@[simp] theorem held_store : (c.store text i).held = c.held := by
  rcases store_eq c text i with h | h <;> rw [h] <;> rfl

@[simp] theorem nextId_store : (c.store text i).nextId = c.nextId := by
  rcases store_eq c text i with h | h <;> rw [h] <;> rfl

@[simp] theorem hits_store : (c.store text i).hits = c.hits := by
  rcases store_eq c text i with h | h <;> rw [h] <;> rfl

@[simp] theorem misses_store : (c.store text i).misses = c.misses := by
  rcases store_eq c text i with h | h <;> rw [h] <;> rfl

@[simp] theorem retained_store : (c.store text i).retained =
    (Recent.add c.config.limit c.retained text i).entries := by
  rcases store_eq c text i with h | h <;> rw [h] <;> rfl

@[simp] theorem evictions_store : (c.store text i).evictions =
    c.evictions + (Recent.add c.config.limit c.retained text i).evictions := by
  rcases store_eq c text i with h | h <;> rw [h] <;> rfl

theorem mem_or_eq_of_mem_index_store {p : String × Instance} (h : p ∈ (c.store text i).index) :
    p ∈ c.index ∨ p = (text, i) := by
  refine Entries.mem_or_eq_of_mem_insert ?_
  rcases store_eq c text i with heq | heq
  · rw [heq] at h
    exact h
  · rw [heq] at h
    exact mem_index_of_mem_sweepExcept h

/-- The new instance is in the index, also after a sweep. -/
theorem get?_store_self : (c.store text i).index.get? text = some i := by
  have hget : (c.index.insert text i).get? text = some i := by
    rw [Entries.get?_insert, if_pos rfl]
  rcases store_eq c text i with heq | heq
  · rw [heq]
    exact hget
  · rw [heq]
    exact get?_sweepExcept hget (.inr rfl)

/-- The living instances for other texts are where they were. -/
theorem get?_store {other : String} (hne : text ≠ other) (hget : c.index.get? other = some j)
    (halive : (c.store text i).isAlive j) : (c.store text i).index.get? other = some j := by
  have hget' : (c.index.insert text i).get? other = some j := by
    rw [Entries.get?_insert, if_neg hne, hget]
  rcases store_eq c text i with heq | heq
  · rw [heq]
    exact hget'
  · rw [heq] at halive ⊢
    exact get?_sweepExcept hget' (.inl halive)

theorem isAlive_of_store (h : (c.store text i).isAlive j) : c.isAlive j ∨ j.id = i.id := by
  rcases isAlive_iff.mp h with h | h
  · obtain ⟨p, hp, hid⟩ := isAmong_iff.mp h
    rw [retained_store] at hp
    rcases Recent.mem_or_eq_of_mem_add hp with hp | rfl
    · exact .inl (isAlive_iff.mpr (.inl (isAmong_iff.mpr ⟨p, hp, hid⟩)))
    · exact .inr hid.symm
  · rw [held_store] at h
    exact .inl (isAlive_iff.mpr (.inr h))

end Store

/-! ### Requests for a text with a living instance -/

theorem get_of_live? (h : c.live? text = some i) : c.get text = (some i, c.touch text i) := by
  rw [get, h]

theorem get_of_live?_eq_none (h : c.live? text = none) : c.get text = (none, c) := by
  rw [get, h]

/-- The living instance for a text is handed out again. -/
theorem compile_of_live? (henabled : c.config.enabled) (h : c.live? text = some i) :
    c.compile text = (.ok i, (c.touch text i).countHit) := by
  rw [compile, if_pos henabled, get_of_live? h]

/-! ### All cases -/

/-- The state in which a new instance has been made, after a request for which there was none. -/
def numbered (c : Cache) : Cache := { c.countMiss with nextId := c.nextId + 1 }

/-- What a request to compile a text can answer, and what it leaves behind. -/
inductive Compilation (c : Cache) (text : String) : Except ParseError Instance → Cache → Prop
  | hit {i : Instance} (henabled : c.config.enabled) (hlive : c.live? text = some i) :
    Compilation c text (.ok i) (c.touch text i).countHit
  | rejected {e : ParseError} (hmiss : c.config.enabled → c.live? text = none)
    (herror : Compiled.ofText text = .error e) : Compilation c text (.error e) c.countMiss
  | made {compiled : Compiled} (henabled : c.config.enabled) (hmiss : c.live? text = none)
    (hok : Compiled.ofText text = .ok compiled) :
    Compilation c text (.ok ⟨c.nextId, compiled⟩) (c.numbered.store text ⟨c.nextId, compiled⟩)
  /-- A cache that is not used makes a new instance each time. -/
  | uncached {compiled : Compiled} (hdisabled : ¬ c.config.enabled)
    (hok : Compiled.ofText text = .ok compiled) :
    Compilation c text (.ok ⟨c.nextId, compiled⟩) c.numbered

theorem compile_compilation (c : Cache) (text : String) :
    Compilation c text (c.compile text).1 (c.compile text).2 := by
  by_cases henabled : c.config.enabled
  · cases hlive : c.live? text with
    | some i =>
      rw [compile_of_live? henabled hlive]
      exact .hit henabled hlive
    | none =>
      rw [compile, if_pos henabled, get_of_live?_eq_none hlive]
      cases hcompiled : Compiled.ofText text with
      | error e => exact .rejected (fun _ => hlive) hcompiled
      | ok compiled =>
        -- nobody has entered an instance in the meantime
        have hstill : (c.countMiss.create compiled).2.live? text = none := hlive
        simp only [enter, hstill]
        exact .made henabled hlive hcompiled
  · rw [compile, if_neg henabled]
    cases hcompiled : Compiled.ofText text with
    | error e => exact .rejected (fun h => absurd h henabled) hcompiled
    | ok compiled => exact .uncached henabled hcompiled

/-- What an action can answer, and what it leaves behind. -/
inductive Step (c : Cache) : Action → Reply → Cache → Prop
  | served {text : String} {i : Instance} {c' : Cache} (holder : Option String)
    (h : Compilation c text (.ok i) c') :
    Step c (.compile text holder) (.found i (c'.holdersOf i)) (c'.give i holder)
  | refused {text : String} {e : ParseError} {c' : Cache} (holder : Option String)
    (h : Compilation c text (.error e) c') : Step c (.compile text holder) (.failed e) c'
  | got {text : String} {i : Instance} (holder : Option String) (hlive : c.live? text = some i) :
    Step c (.get text holder) (.found i ((c.touch text i).holdersOf i)) ((c.touch text i).give i holder)
  | absent {text : String} (holder : Option String) (hmiss : c.live? text = none) :
    Step c (.get text holder) .absent c
  | released (holder : String) : Step c (.release holder) .done (c.release holder)
  | swept : Step c .sweep .done c.sweep
  | cleared : Step c .clear .done c.clear

theorem perform_step (c : Cache) (a : Action) : Step c a (c.perform a).1 (c.perform a).2 := by
  cases a with
  | compile text holder =>
    -- whether a text is compiled shows in the answer, so the two cases go by that
    have h := compile_compilation c text
    cases hcompile : c.compile text with
    | mk r c' =>
      rw [hcompile] at h
      simp only [perform, hcompile]
      cases r with
      | ok i => exact .served holder h
      | error e => exact .refused holder h
  | get text holder =>
    cases hlive : c.live? text with
    | some i =>
      simp only [perform, get_of_live? hlive]
      exact .got holder hlive
    | none =>
      simp only [perform, get_of_live?_eq_none hlive]
      exact .absent holder hlive
  | release holder => exact .released holder
  | sweep => exact .swept
  | clear => exact .cleared

/-- No request changes the configuration. -/
theorem Compilation.config_eq {r : Except ParseError Instance} (h : Compilation c text r c') :
    c'.config = c.config := by
  cases h with
  | hit => rfl
  | rejected => rfl
  | made => exact config_store
  | uncached => rfl

theorem Step.config_eq {a : Action} {r : Reply} (h : Step c a r c') : c'.config = c.config := by
  cases h with
  | served holder h => rw [config_give, h.config_eq]
  | refused holder h => exact h.config_eq
  | got holder hlive => rw [config_give, config_touch]
  | absent | released | swept | cleared => rfl

end Cache
end ExprLang
