import ExprLang.Proofs.Cache.Bounded
import ExprLang.Proofs.Cache.Recency
import ExprLang.Proofs.Cache.Transparency

/-!
# Requests that come to nothing

A request for a text that cannot be read, or for an instance that is not there, leaves a cache as it
was, but for the count of misses.  The reason is that such a text never comes into a cache, neither
into the index nor among the retained ones, so that nothing is used before it turns out that there is
nothing.  No action depends on the count of misses; therefore these requests may just as well be left
out of a run.

## Main definitions

* `Cache.RetainsFaithful` — every retained instance is what its text is read as.
* `Cache.addMisses` — a cache which has missed some more times.
* `Cache.Action.isRefused` — the action asks for a text that cannot be read.

## Main results

* `Cache.retainsFaithful_run` — what is retained after a run was read.
* `Cache.perform_addMisses` — no action depends on the count of misses.
* `Cache.run_filter_isRefused` — a run without the requests that come to nothing.
* `Cache.refusal_run` — **requests that come to nothing leave a cache as it was**.

## References

`SPEC_FULL.md`, 10.3: parse failures are never cached.
-/

namespace ExprLang
namespace Cache

variable {c c' : Cache} {text : String} {i : Instance}

/-! ### What is retained -/

/-- Every retained instance is what its text is read as. -/
def RetainsFaithful (c : Cache) : Prop := ∀ p ∈ c.retained, Compiled.ofText p.1 = .ok p.2.compiled

theorem retainsFaithful_start (config : CacheConfig) : RetainsFaithful (start config) := by
  intro p hp
  cases hp

/-- Nothing else in a cache matters. -/
theorem RetainsFaithful.frame (h : RetainsFaithful c) (hretained : c'.retained = c.retained) :
    RetainsFaithful c' := by
  intro p hp
  rw [hretained] at hp
  exact h p hp

/-- A use brings nothing among the retained ones but an instance that is in the index. -/
theorem RetainsFaithful.touch (h : RetainsFaithful c) (hok : Compiled.ofText text = .ok i.compiled) :
    RetainsFaithful (c.touch text i) := by
  intro p hp
  rw [retained_touch] at hp
  rcases Recent.mem_or_eq_of_mem_refresh hp with hp | rfl
  · exact h p hp
  · exact hok

theorem RetainsFaithful.store (h : RetainsFaithful c) (hok : Compiled.ofText text = .ok i.compiled) :
    RetainsFaithful (c.store text i) := by
  intro p hp
  rw [retained_store] at hp
  rcases Recent.mem_or_eq_of_mem_add hp with hp | rfl
  · exact h p hp
  · exact hok

theorem RetainsFaithful.give (h : RetainsFaithful c) (holder : Option String) :
    RetainsFaithful (c.give i holder) :=
  h.frame retained_give

theorem Compilation.retainsFaithful {r : Except ParseError Instance}
    (hcompile : Compilation c text r c') (hc : Faithful c) (h : RetainsFaithful c) :
    RetainsFaithful c' := by
  cases hcompile with
  | hit henabled hlive => exact (h.touch (hc.ofText_of_live? hlive)).frame rfl
  | rejected | uncached => exact h.frame rfl
  | made henabled hmiss hok =>
    have hnumbered : RetainsFaithful c.numbered := h.frame rfl
    exact hnumbered.store hok

theorem Step.retainsFaithful {a : Action} {r : Reply} (hstep : Step c a r c') (hc : Faithful c)
    (h : RetainsFaithful c) : RetainsFaithful c' := by
  cases hstep with
  | served holder hcompile => exact (hcompile.retainsFaithful hc h).give holder
  | refused holder hcompile => exact hcompile.retainsFaithful hc h
  | got holder hlive => exact (h.touch (hc.ofText_of_live? hlive)).give holder
  | absent => exact h
  | released | swept => exact h.frame rfl
  | cleared =>
    intro p hp
    cases hp

theorem retainsFaithful_run (config : CacheConfig) (actions : List Action) :
    RetainsFaithful ((start config).run actions) := by
  have hnew : Faithful (start config) ∧ RetainsFaithful (start config) :=
    ⟨faithful_start config, retainsFaithful_start config⟩
  have hboth := run_induction (P := fun _ c _ => Faithful c ∧ RetainsFaithful c) hnew
    (fun _ hstep hc => ⟨hstep.faithful hc.1, hstep.retainsFaithful hc.1 hc.2⟩) actions
  exact hboth.2

/-! ### Texts that cannot be read -/

/-- Under a text that cannot be read there is nothing. -/
theorem notMem_keys_of_error {entries : Entries Instance} {e : ParseError}
    (h : ∀ p ∈ entries, Compiled.ofText p.1 = .ok p.2.compiled)
    (herror : Compiled.ofText text = .error e) : text ∉ entries.keys := by
  intro hmem
  obtain ⟨i, hget⟩ := Entries.mem_keys_iff.mp hmem
  have hok := h (text, i) (Entries.mem_of_get? hget)
  rw [herror] at hok
  cases hok

theorem Faithful.live?_of_error (hc : Faithful c) {e : ParseError}
    (herror : Compiled.ofText text = .error e) : c.live? text = none := by
  rw [live?, Entries.get?_eq_none_iff.mpr (notMem_keys_of_error hc herror)]
  rfl

/-- A request to compile has one outcome. -/
theorem Compilation.unique {r r' : Except ParseError Instance} {c'' : Cache}
    (h : Compilation c text r c') (h' : Compilation c text r' c'') : (r, c') = (r', c'') := by
  cases h with
  | hit henabled hlive => cases h' <;> simp_all
  | rejected hmiss herror => cases h' <;> simp_all
  | made henabled hmiss hok => cases h' <;> simp_all
  | uncached hdisabled hok => cases h' <;> simp_all

/-- A request that fails is counted, and that is all. -/
theorem Faithful.compile_of_error (hc : Faithful c) {e : ParseError}
    (herror : Compiled.ofText text = .error e) : c.compile text = (.error e, c.countMiss) :=
  (compile_compilation c text).unique (.rejected (fun _ => hc.live?_of_error herror) herror)

/-! ### The count of misses -/

/-- A cache which has missed some more times. -/
def addMisses (c : Cache) (n : Nat) : Cache := { c with misses := c.misses + n }

theorem addMisses_addMisses (c : Cache) (m n : Nat) :
    (c.addMisses m).addMisses n = c.addMisses (m + n) := by
  simp only [addMisses, Nat.add_assoc]

theorem countMiss_addMisses (c : Cache) (n : Nat) :
    (c.addMisses n).countMiss = c.countMiss.addMisses n := by
  simp only [addMisses, countMiss, Nat.add_right_comm]

theorem numbered_addMisses (c : Cache) (n : Nat) :
    (c.addMisses n).numbered = c.numbered.addMisses n := by
  rw [numbered, countMiss_addMisses]
  rfl

theorem store_addMisses (c : Cache) (n : Nat) (text : String) (i : Instance) :
    (c.addMisses n).store text i = (c.store text i).addMisses n := by
  by_cases hdue : c.nextSweep < (c.index.insert text i).length
  · rw [store_of_due hdue, store_of_due (c := c.addMisses n) hdue]
    rfl
  · rw [store_of_not_due hdue, store_of_not_due (c := c.addMisses n) hdue]
    rfl

theorem Compilation.addMisses {r : Except ParseError Instance} (h : Compilation c text r c')
    (n : Nat) : Compilation (c.addMisses n) text r (c'.addMisses n) := by
  cases h with
  | hit henabled hlive => exact .hit henabled hlive
  | rejected hmiss herror =>
    rw [← countMiss_addMisses]
    exact .rejected hmiss herror
  | made henabled hmiss hok =>
    rw [← store_addMisses, ← numbered_addMisses]
    exact .made henabled hmiss hok
  | uncached hdisabled hok =>
    rw [← numbered_addMisses]
    exact .uncached hdisabled hok

theorem compile_addMisses (c : Cache) (n : Nat) (text : String) :
    (c.addMisses n).compile text = ((c.compile text).1, (c.compile text).2.addMisses n) :=
  (compile_compilation (c.addMisses n) text).unique ((compile_compilation c text).addMisses n)

theorem get_addMisses (c : Cache) (n : Nat) (text : String) :
    (c.addMisses n).get text = ((c.get text).1, (c.get text).2.addMisses n) := by
  cases hlive : c.live? text with
  | some i =>
    rw [get_of_live? hlive, get_of_live? (c := c.addMisses n) hlive]
    rfl
  | none =>
    rw [get_of_live?_eq_none hlive, get_of_live?_eq_none (c := c.addMisses n) hlive]

theorem handOut_addMisses (c : Cache) (n : Nat) (i : Instance) (holder : Option String) :
    (c.addMisses n).handOut i holder =
      ((c.handOut i holder).1, (c.handOut i holder).2.addMisses n) := by
  cases holder <;> rfl

/-- No action depends on the count of misses. -/
theorem perform_addMisses (c : Cache) (n : Nat) (a : Action) :
    (c.addMisses n).perform a = ((c.perform a).1, (c.perform a).2.addMisses n) := by
  cases a with
  | compile text holder =>
    simp only [perform, compile_addMisses]
    rcases c.compile text with ⟨e | i, c'⟩
    · rfl
    · exact handOut_addMisses c' n i holder
  | get text holder =>
    simp only [perform, get_addMisses]
    rcases c.get text with ⟨_ | i, c'⟩
    · rfl
    · exact handOut_addMisses c' n i holder
  | release holder => rfl
  | sweep => rfl
  | clear => rfl

/-! ### Runs without the requests that fail -/

/-- The action asks for a text that cannot be read. -/
def Action.isRefused : Action → Bool
  | .compile text _ | .get text _ => !(Compiled.ofText text).isOk
  | _ => false

theorem exists_error_of_not_isOk (h : (Compiled.ofText text).isOk = false) :
    ∃ e, Compiled.ofText text = .error e := by
  cases hcompiled : Compiled.ofText text with
  | error e => exact ⟨e, rfl⟩
  | ok compiled =>
    rw [hcompiled] at h
    cases h

/-- A request for a text that cannot be read is counted if it is one to compile, and that is all. -/
theorem Faithful.perform_of_isRefused (hc : Faithful c) {a : Action} (h : a.isRefused) :
    (c.perform a).2 = c.addMisses ([a].countP Action.isCompile) := by
  cases a with
  | compile text holder =>
    obtain ⟨e, herror⟩ := exists_error_of_not_isOk (by simpa [Action.isRefused] using h)
    simp only [perform, hc.compile_of_error herror]
    rfl
  | get text holder =>
    obtain ⟨e, herror⟩ := exists_error_of_not_isOk (by simpa [Action.isRefused] using h)
    simp only [perform, get_of_live?_eq_none (hc.live?_of_error herror)]
    rfl
  | release | sweep | clear => cases h

/-- Requests for texts that cannot be read may be left out of a run: nothing changes but the count of
misses. -/
theorem run_filter_isRefused (config : CacheConfig) (actions : List Action) :
    (start config).run actions =
      ((start config).run (actions.filter fun a => !a.isRefused)).addMisses
        ((actions.filter Action.isRefused).countP Action.isCompile) := by
  induction actions using List.reverseRecOn with
  | nil => rfl
  | append_singleton actions a ih =>
    have hfaithful := faithful_run config (actions.filter fun a => !a.isRefused)
    rw [run_append, ih, List.filter_append, List.filter_append, List.countP_append]
    by_cases hrefused : a.isRefused
    · -- the last action adds nothing but its miss
      have hleft : [a].filter (fun a => !a.isRefused) = [] := by simp [hrefused]
      have hone : [a].filter Action.isRefused = [a] := by simp [hrefused]
      rw [hleft, hone, List.append_nil]
      show ((addMisses _ _).perform a).2 = _
      rw [perform_addMisses, hfaithful.perform_of_isRefused hrefused, addMisses_addMisses,
        Nat.add_comm]
    · have hleft : [a].filter (fun a => !a.isRefused) = [a] := by simp [hrefused]
      have hnone : [a].filter Action.isRefused = [] := by simp [hrefused]
      rw [hleft, hnone, run_append]
      show ((addMisses _ _).perform a).2 = _
      rw [perform_addMisses]
      rfl

/-- **Requests that come to nothing leave a cache as it was.**  After any run, with any configuration,

* a request to compile a text that cannot be read answers why, and all that changes is the count of
  misses; neither the index nor the retained instances know the text;
* a request for the instance of a text whose entry has died, or that has none, changes nothing;
* nothing else would be there if no text that cannot be read had ever been asked for. -/
theorem refusal_run (config : CacheConfig) (actions : List Action) :
    let c := (start config).run actions
    (∀ text e, Compiled.ofText text = .error e →
      c.compile text = (.error e, { c with misses := c.misses + 1 }) ∧
        text ∉ c.index.keys ∧ text ∉ c.retained.keys) ∧
    (∀ text, (∀ i, c.index.get? text = some i → ¬ c.isAlive i) → c.get text = (none, c)) ∧
    c = ((start config).run (actions.filter fun a => !a.isRefused)).addMisses
      ((actions.filter Action.isRefused).countP Action.isCompile) := by
  intro c
  have hfaithful : Faithful c := faithful_run config actions
  have hretains : RetainsFaithful c := retainsFaithful_run config actions
  refine ⟨fun text e herror => ⟨hfaithful.compile_of_error herror,
    notMem_keys_of_error hfaithful herror, notMem_keys_of_error hretains herror⟩,
    fun text hdead => ?_, run_filter_isRefused config actions⟩
  refine get_of_live?_eq_none (Option.eq_none_iff_forall_ne_some.mpr fun i hlive => ?_)
  obtain ⟨hget, halive⟩ := live?_eq_some_iff.mp hlive
  exact hdead i hget halive

/-- A request that fails between others, and one for an entry that has died: its instance was pushed
out, and its holder has let it go. -/
theorem refusal_run_of_released :
    let c := (start ⟨true, some 1, 1⟩).run [.compile "a" (some "first"), .compile "b" none,
      .compile "1 +" none, .release "first"]
    c.compile "1 +" = (.error (.unexpectedEnd .operand), { c with misses := c.misses + 1 }) ∧
      "a" ∈ c.index.keys ∧ c.get "a" = (none, c) := by
  intro c
  obtain ⟨hrefused, habsent, -⟩ := refusal_run ⟨true, some 1, 1⟩
    [.compile "a" (some "first"), .compile "b" none, .compile "1 +" none, .release "first"]
  have herror : Compiled.ofText "1 +" = .error (.unexpectedEnd .operand) := by decide +kernel
  have hdead : c.live? "a" = none := by decide +kernel
  refine ⟨(hrefused "1 +" _ herror).1, by decide +kernel, habsent "a" fun i hget halive => ?_⟩
  rw [live?_eq_some_iff.mpr ⟨hget, halive⟩] at hdead
  cases hdead

end Cache
end ExprLang
