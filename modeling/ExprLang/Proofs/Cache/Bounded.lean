import ExprLang.Proofs.Cache.History

/-!
# The index stays within bounds

Entries die silently: an instance is pushed out of the retained ones, or its holder lets go, and the
index is not told.  Only a new entry can make the index larger, and it is what makes a sweep due.  A
sweep leaves the living, so from then on twice their number is allowed, and at no time more than twice
the largest number of entries that have been alive at once since everything was taken out.

## Main definitions

* `Cache.lives` — whether an instance lives, with one that a request is about to answer.
* `Cache.peakFrom` — the largest number of living entries since the last clear.
* `Cache.Bounded c peak` — the invariant.

## Main results

* `Cache.bounded_perform`, `Cache.bounded_run` — every action keeps the bound, and every run.
* `Cache.index_bounded_run` — **the index stays within bounds and sweeps are exact**.

## References

`SPEC_FULL.md`, 10.3, on sweeps; the reference's `maybe_sweep`.
-/

namespace ExprLang
namespace Cache

variable {c c' : Cache} {text : String} {i : Instance} {fresh : Option Instance} {peak : Nat}

/-! ### The living entries -/

/-- Whether an instance lives, counting one that a request is about to answer. -/
def lives (c : Cache) (fresh : Option Instance) (i : Instance) : Bool :=
  c.isAlive i || fresh.any fun j => j.id == i.id

/-- The number of entries of the index with a living instance. -/
def living (c : Cache) (fresh : Option Instance) : Nat := c.index.countP fun p => c.lives fresh p.2

/-- A sweep leaves the living entries, and no others. -/
theorem index_sweepExcept : (c.sweepExcept fresh).index = c.index.filter fun p => c.lives fresh p.2 :=
  rfl

theorem nextSweep_sweepExcept : (c.sweepExcept fresh).nextSweep =
    max c.config.threshold (2 * (c.sweepExcept fresh).index.length) := rfl

/-- After a sweep all entries are living. -/
theorem living_sweepExcept :
    (c.sweepExcept fresh).living fresh = (c.sweepExcept fresh).index.length := by
  rw [living, List.countP_eq_length]
  exact fun p hp => (List.mem_filter.mp hp).2

/-! ### New entries -/

/-- The state in which a new instance has been entered, before a sweep that may be due. -/
def entered (c : Cache) (text : String) (i : Instance) : Cache :=
  { c with index := c.index.insert text i }.retain text i

theorem store_of_due (h : c.nextSweep < (c.index.insert text i).length) :
    c.store text i = (c.entered text i).sweepExcept (some i) :=
  if_pos h

theorem store_of_not_due (h : ¬ c.nextSweep < (c.index.insert text i).length) :
    c.store text i = c.entered text i :=
  if_neg h

/-- A new entry has room in the index, or it makes the index be swept. -/
theorem store_cases (c : Cache) (text : String) (i : Instance) :
    let c' := c.store text i
    let full := c.index.insert text i
    (c.nextSweep < full.length ∧ c'.sweeps = c.sweeps + 1 ∧
        c'.index = full.filter fun p => c'.lives (some i) p.2) ∨
      (full.length ≤ c.nextSweep ∧ c'.sweeps = c.sweeps ∧ c'.index = full) := by
  by_cases hdue : c.nextSweep < (c.index.insert text i).length
  · rw [store_of_due hdue]
    exact .inl ⟨hdue, rfl, rfl⟩
  · rw [store_of_not_due hdue]
    exact .inr ⟨Nat.le_of_not_lt hdue, rfl, rfl⟩

/-! ### The largest number of living entries -/

/-- The largest number of living entries that an action brings about: the number behind it, and for a
request to compile also that before its instance is handed over.  An entry that lives on for a moment
inside of a request, until it is pushed out, is not counted; so the bound is the sharper one. -/
def mostLiving (c : Cache) (a : Action) : Nat :=
  match a with
  | .compile text _ =>
    max ((c.compile text).2.living (c.compile text).1.toOption) ((c.perform a).2.living none)
  | _ => (c.perform a).2.living none

/-- The largest number since the last clear, if it was `peak` before the action. -/
def peakAfter (c : Cache) (peak : Nat) (a : Action) : Nat :=
  if a = .clear then 0 else max peak (c.mostLiving a)

/-- The same for a list of actions. -/
def peakFrom (c : Cache) (peak : Nat) : List Action → Nat
  | [] => peak
  | a :: actions => peakFrom (c.perform a).2 (c.peakAfter peak a) actions

/-! ### The invariant -/

/-- The index has not outgrown what was allowed, and that is not too much. -/
structure Bounded (c : Cache) (peak : Nat) : Prop where
  distinct : c.index.keys.Nodup
  entries : c.index.length ≤ c.nextSweep
  due : c.nextSweep ≤ max c.config.threshold (2 * peak)

namespace Bounded

theorem start (config : CacheConfig) : Bounded (Cache.start config) 0 where
  distinct := List.nodup_nil
  entries := Nat.zero_le _
  due := Nat.le_max_left _ _

theorem clear (c : Cache) : Bounded c.clear 0 where
  distinct := List.nodup_nil
  entries := Nat.zero_le _
  due := Nat.le_max_left _ _

/-- A larger number of living entries allows no less. -/
theorem mono (h : Bounded c peak) {peak' : Nat} (hle : peak ≤ peak') : Bounded c peak' where
  distinct := h.distinct
  entries := h.entries
  due := by
    have hdue := h.due
    omega

/-- Nothing else in a cache matters. -/
theorem frame (h : Bounded c peak) (hconfig : c'.config = c.config) (hindex : c'.index = c.index)
    (hnext : c'.nextSweep = c.nextSweep) : Bounded c' peak where
  distinct := hindex ▸ h.distinct
  entries := by
    rw [hindex, hnext]
    exact h.entries
  due := by
    rw [hnext, hconfig]
    exact h.due

/-- A sweep allows twice what it leaves, and what it leaves is living. -/
theorem sweepExcept (hdistinct : c.index.keys.Nodup)
    (hliving : (c.sweepExcept fresh).living fresh ≤ peak) : Bounded (c.sweepExcept fresh) peak where
  distinct := Entries.nodup_filter hdistinct _
  entries := by
    rw [nextSweep_sweepExcept]
    omega
  due := by
    rw [living_sweepExcept] at hliving
    rw [nextSweep_sweepExcept]
    exact Nat.max_le.mpr ⟨Nat.le_max_left _ _,
      Nat.le_trans (Nat.mul_le_mul_left 2 hliving) (Nat.le_max_right _ _)⟩

/-- A new entry is within what is allowed, or there is a sweep. -/
theorem store (h : Bounded c peak) (hliving : (c.store text i).living (some i) ≤ peak) :
    Bounded (c.store text i) peak := by
  have hdistinct : (c.index.insert text i).keys.Nodup := Entries.nodup_insert h.distinct text i
  by_cases hdue : c.nextSweep < (c.index.insert text i).length
  · rw [store_of_due hdue] at hliving ⊢
    exact sweepExcept hdistinct hliving
  · rw [store_of_not_due hdue]
    exact ⟨hdistinct, Nat.le_of_not_lt hdue, h.due⟩

end Bounded

@[simp] theorem nextSweep_give {holder : Option String} :
    (c.give i holder).nextSweep = c.nextSweep := by
  cases holder <;> rfl

theorem Bounded.give (h : Bounded c peak) (holder : Option String) :
    Bounded (c.give i holder) peak :=
  h.frame config_give index_give nextSweep_give

theorem Compilation.bounded {r : Except ParseError Instance} (hcompile : Compilation c text r c')
    (h : Bounded c peak) (hliving : c'.living r.toOption ≤ peak) : Bounded c' peak := by
  cases hcompile with
  | hit | rejected | uncached => exact h.frame rfl rfl rfl
  | made => exact Bounded.store (h.frame rfl rfl rfl) hliving

/-- Every action keeps the bound. -/
theorem bounded_perform (h : Bounded c peak) (a : Action) :
    Bounded (c.perform a).2 (c.peakAfter peak a) := by
  by_cases hclear : a = .clear
  · subst hclear
    exact Bounded.clear c
  have hpeak : c.peakAfter peak a = max peak (c.mostLiving a) := if_neg hclear
  have hold : Bounded c (c.peakAfter peak a) := h.mono (by omega)
  cases a with
  | compile text holder =>
    -- a sweep happens before the holder gets the instance, so the number of that moment counts
    have hliving : (c.compile text).2.living (c.compile text).1.toOption ≤
        c.peakAfter peak (.compile text holder) := by
      rw [hpeak, mostLiving]
      omega
    have hcompiled := (compile_compilation c text).bounded hold hliving
    cases hresult : c.compile text with
    | mk r c' =>
      rw [hresult] at hcompiled
      simp only [perform, hresult]
      cases r with
      | ok i => exact hcompiled.give holder
      | error e => exact hcompiled
  | get text holder =>
    cases hlive : c.live? text with
    | some i =>
      have htouched : Bounded (c.touch text i) (c.peakAfter peak (.get text holder)) :=
        hold.frame rfl rfl rfl
      simp only [perform, get_of_live? hlive]
      exact htouched.give holder
    | none =>
      simp only [perform, get_of_live?_eq_none hlive]
      exact hold
  | release holder => exact hold.frame rfl rfl rfl
  | sweep =>
    have hliving : c.sweep.living none ≤ c.peakAfter peak .sweep := by
      rw [hpeak]
      exact Nat.le_max_right _ _
    exact Bounded.sweepExcept hold.distinct hliving
  | clear => exact absurd rfl hclear

theorem bounded_run (h : Bounded c peak) (actions : List Action) :
    Bounded (c.run actions) (c.peakFrom peak actions) := by
  induction actions generalizing c peak with
  | nil => exact h
  | cons a actions ih => exact ih (bounded_perform h a)

/-! ### Requests -/

/-- A request for which an instance is made enters it. -/
theorem Compilation.sweeps (hcompile : Compilation c text (.ok i) c') (henabled : c.config.enabled)
    (hmiss : c'.misses = c.misses + 1) :
    let full := c.index.insert text i
    (c.nextSweep < full.length ∧ c'.sweeps = c.sweeps + 1 ∧
        c'.index = full.filter fun p => c'.lives (some i) p.2) ∨
      (full.length ≤ c.nextSweep ∧ c'.sweeps = c.sweeps ∧ c'.index = full) := by
  cases hcompile with
  | hit => exact absurd hmiss (Nat.ne_of_lt (Nat.lt_succ_self c.misses))
  | made => exact store_cases c.numbered text _
  | uncached hdisabled => exact absurd henabled hdisabled

/-- A hit finds the instance where it was. -/
theorem Compilation.index_of_hit {r : Except ParseError Instance}
    (hcompile : Compilation c text r c') (hhit : c'.hits = c.hits + 1) : c'.index = c.index := by
  have hne : c.hits ≠ c.hits + 1 := Nat.ne_of_lt (Nat.lt_succ_self c.hits)
  cases hcompile with
  | hit | rejected | uncached => rfl
  | made =>
    rw [hits_store] at hhit
    exact absurd hhit hne

theorem index_get (c : Cache) (text : String) : (c.get text).2.index = c.index := by
  unfold get
  cases c.live? text <;> rfl

/-- **The index stays within bounds and sweeps are exact.**  After any run of a cache that is used, the
index has distinct names, and no more of them than the threshold or twice the largest number of living
entries since the last clear.  A sweep leaves the entries whose instances live; if a request to
compile makes one due, then the instance that it answers counts as living.  To ask for an instance, and
a request that finds one, do not change the index. -/
theorem index_bounded_run (config : CacheConfig) (henabled : config.enabled)
    (actions : List Action) :
    let c := (start config).run actions
    c.index.keys.Nodup ∧
      c.stats.entries ≤ max config.threshold (2 * (start config).peakFrom 0 actions) ∧
      (c.sweep.index = c.index.filter fun p => c.isAlive p.2) ∧
      (∀ text i c', c.compile text = (.ok i, c') → c'.misses = c.misses + 1 →
        let full := c.index.insert text i
        (c.nextSweep < full.length ∧ c'.sweeps = c.sweeps + 1 ∧
            c'.index = full.filter fun p => c'.isAlive p.2 || i.id == p.2.id) ∨
          (full.length ≤ c.nextSweep ∧ c'.sweeps = c.sweeps ∧ c'.index = full)) ∧
      (∀ text, (c.get text).2.index = c.index) ∧
      ∀ text, (c.compile text).2.hits = c.hits + 1 → (c.compile text).2.index = c.index := by
  intro c
  have hbounded : Bounded c ((start config).peakFrom 0 actions) := bounded_run (.start config) actions
  have hconfig : c.config = config := config_run _ actions
  have hused : c.config.enabled := by rw [hconfig, henabled]
  refine ⟨hbounded.distinct, ?_, ?_, fun text i c' hresult hmiss => ?_, index_get c,
    fun text hhit => ?_⟩
  · -- the bound on the entries is the one by which the next sweep is due
    have hentries := Nat.le_trans hbounded.entries hbounded.due
    rwa [hconfig] at hentries
  · simp [sweep, index_sweepExcept, lives]
  · have hcompile := compile_compilation c text
    rw [hresult] at hcompile
    exact hcompile.sweeps hused hmiss
  · exact (compile_compilation c text).index_of_hit hhit

/-- Two sweeps of a small cache which retains nothing: the first leaves one held entry and allows two,
the second leaves another one beside it. -/
theorem index_bounded_run_of_sweeps :
    let actions : List Action := [.compile "a" none, .compile "b" (some "first"), .compile "c" none,
      .compile "d" none]
    let c := (start ⟨true, some 0, 1⟩).run actions
    c.sweeps = 2 ∧ c.index.keys = ["b", "d"] ∧
      c.stats.entries ≤ max 1 (2 * (start ⟨true, some 0, 1⟩).peakFrom 0 actions) ∧
      (start ⟨true, some 0, 1⟩).peakFrom 0 actions = 2 := by
  intro actions c
  have hbound := (index_bounded_run ⟨true, some 0, 1⟩ rfl actions).2.1
  have hsweeps : c.sweeps = 2 ∧ c.index.keys = ["b", "d"] := by decide +kernel
  exact ⟨hsweeps.1, hsweeps.2, hbound, by decide +kernel⟩

end Cache
end ExprLang
