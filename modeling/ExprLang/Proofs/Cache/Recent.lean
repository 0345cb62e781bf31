import ExprLang.Cache.Recent
import Mathlib.Data.List.Basic
import Mathlib.Data.List.Nodup

/-!
# The names used last

What a use does to the entries it does to their names alone: the name becomes the first one, and the
last one goes if there would be one too many.  Over a list of all names ever used, each once and the
latest first, the names that are left are those at the front of the list.

## Main definitions

* `Recent.namesAfter` — the names after a use.
* `Recent.Displaces` — a name for which another one has to go.
* `Recent.moveToFront`, `Recent.kept` — the list of all names after a use, and its front.

## Main results

* `Recent.keys_add`, `Recent.keys_refresh` — a use does to names what `namesAfter` says.
* `Recent.namesAfter_kept` — the front of the list of all names is kept.
-/

namespace ExprLang
namespace Recent

/-- The names after a use. -/
def namesAfter (limit : Option Nat) (names : List String) (name : String) : List String :=
  if limit = some 0 then names
  else if name ∈ names then name :: names.filter fun k => k ≠ name
  else if limit = some names.length then name :: names.dropLast
  else name :: names

/-- The name is a new one among as many as there may be. -/
def Displaces (limit : Option Nat) (names : List String) (name : String) : Prop :=
  limit ≠ some 0 ∧ limit = some names.length ∧ name ∉ names

instance (limit : Option Nat) (names : List String) (name : String) :
    Decidable (Displaces limit names name) :=
  inferInstanceAs (Decidable (_ ∧ _ ∧ _))

/-! ### Entries and their names -/

section

variable {α : Type} {limit : Option Nat} {m : Entries α} {name : String} {value : α}

/-- What is in after a push was in before, or it is what was pushed. -/
theorem mem_or_eq_of_mem_push {p : String × α} (h : p ∈ (push limit m name value).2) :
    p ∈ m ∨ p = (name, value) := by
  unfold push at h
  cases hget : m.get? name with
  | some old =>
    rw [hget] at h
    rcases List.mem_cons.mp h with rfl | h
    · exact .inr rfl
    · exact .inl (Entries.mem_erase.mp h).1
  | none =>
    rw [hget] at h
    dsimp only at h
    -- at the limit the last entry goes, below it none
    split at h
    · rcases List.mem_cons.mp h with rfl | h
      · exact .inr rfl
      · exact .inl ((List.dropLast_subset m) h)
    · rcases List.mem_cons.mp h with rfl | h
      · exact .inr rfl
      · exact .inl h

theorem mem_or_eq_of_mem_add {p : String × α} (h : p ∈ (add limit m name value).entries) :
    p ∈ m ∨ p = (name, value) := by
  unfold add at h
  split at h
  · exact .inl h
  · exact mem_or_eq_of_mem_push h

/-- What is in after a use was in before, or it is what was used. -/
theorem mem_or_eq_of_mem_refresh {p : String × α} (h : p ∈ (refresh limit m name value).entries) :
    p ∈ m ∨ p = (name, value) := by
  unfold refresh promote? at h
  split at h
  · exact .inl h
  · cases hget : m.get? name with
    | none =>
      rw [hget] at h
      exact mem_or_eq_of_mem_add h
    | some old =>
      rw [hget] at h
      -- the value that is there stays, whatever the one that was used
      rcases List.mem_cons.mp h with rfl | h
      · exact .inl (Entries.mem_of_get? hget)
      · exact .inl (Entries.mem_erase.mp h).1

theorem keys_add (limit : Option Nat) (m : Entries α) (name : String) (value : α) :
    (add limit m name value).entries.keys = namesAfter limit m.keys name := by
  unfold add namesAfter
  split
  · rfl
  · unfold push
    -- a name already held is moved to the front; nothing is dropped, the length being kept
    cases hget : m.get? name with
    | some old =>
      have hmem : name ∈ m.keys := Entries.mem_keys_iff.mpr ⟨old, hget⟩
      rw [if_pos hmem, ← Entries.keys_erase]
      rfl
    | none =>
      have hmem : name ∉ m.keys := Entries.get?_eq_none_iff.mp hget
      have hlength : m.keys.length = m.length := List.length_map ..
      rw [if_neg hmem, hlength]
      dsimp only
      -- a new name pushes out the last one when the map is at its limit
      split
      · simp [Entries.keys, List.map_dropLast]
      · rfl

/-- An entry goes for one under another name just where the names say so. -/
theorem evictions_add (limit : Option Nat) (m : Entries α) (name : String) (value : α) :
    (add limit m name value).evictions = if Displaces limit m.keys name then 1 else 0 := by
  by_cases hzero : limit = some 0
  · rw [add, if_pos hzero, if_neg fun h => h.1 hzero]
    rfl
  rw [add, if_neg hzero]
  unfold push
  cases hget : m.get? name with
  | some old =>
    have hmem : name ∈ m.keys := Entries.mem_keys_iff.mpr ⟨old, hget⟩
    have hstays : ¬ Displaces limit m.keys name := fun h => h.2.2 hmem
    rw [if_neg hstays]
    simp
  | none =>
    have hmem : name ∉ m.keys := Entries.get?_eq_none_iff.mp hget
    have hlength : m.keys.length = m.length := List.length_map ..
    by_cases hfull : limit = some m.length
    · -- there is an entry to push out, and it is under another name
      have hne : m ≠ [] := by
        rintro rfl
        exact hzero hfull
      have hlast : (m.getLast hne).1 ≠ name := by
        intro heq
        exact hmem (heq ▸ Entries.mem_keys_of_mem (List.getLast_mem hne))
      have hgoes : Displaces limit m.keys name := ⟨hzero, by rw [hlength, hfull], hmem⟩
      rw [if_pos hgoes, if_pos hfull]
      simp [List.getLast?_eq_some_getLast hne, hlast]
    · have hstays : ¬ Displaces limit m.keys name := fun h => hfull (by rw [h.2.1, hlength])
      rw [if_neg hstays, if_neg hfull]
      rfl

theorem keys_refresh (limit : Option Nat) (m : Entries α) (name : String) (value : α) :
    (refresh limit m name value).entries.keys = namesAfter limit m.keys name := by
  by_cases hzero : limit = some 0
  · simp [refresh, namesAfter, hzero, unused]
  · rw [refresh, if_neg hzero]
    unfold promote?
    cases hget : m.get? name with
    | none => exact keys_add limit m name value
    | some old =>
      have hmem : name ∈ m.keys := Entries.mem_keys_iff.mpr ⟨old, hget⟩
      rw [namesAfter, if_neg hzero, if_pos hmem, ← Entries.keys_erase]
      rfl

theorem evictions_refresh (limit : Option Nat) (m : Entries α) (name : String) (value : α) :
    (refresh limit m name value).evictions = if Displaces limit m.keys name then 1 else 0 := by
  by_cases hzero : limit = some 0
  · rw [refresh, if_pos hzero, if_neg fun h => h.1 hzero]
    rfl
  · rw [refresh, if_neg hzero]
    unfold promote?
    cases hget : m.get? name with
    | none => exact evictions_add limit m name value
    | some old =>
      have hmem : name ∈ m.keys := Entries.mem_keys_iff.mpr ⟨old, hget⟩
      rw [if_neg fun h => h.2.2 hmem]
      rfl

end

/-! ### All names ever used -/

/-- The list of all names after a use: the name is the first one now. -/
def moveToFront (names : List String) (name : String) : List String :=
  name :: names.filter fun k => k ≠ name

/-- The names at the front, as many as there may be. -/
def kept (limit : Option Nat) (names : List String) : List String :=
  match limit with
  | none => names
  | some n => names.take n

theorem nodup_moveToFront {names : List String} (h : names.Nodup) (name : String) :
    (moveToFront names name).Nodup := by
  rw [moveToFront, List.nodup_cons]
  exact ⟨by simp, h.filter _⟩

/-- A name that is not at the front is not missed there. -/
theorem take_filter_of_notMem {names : List String} {name : String} {n : Nat}
    (h : name ∉ names.take n) : (names.filter fun k => k ≠ name).take n = names.take n := by
  induction names generalizing n with
  | nil => rfl
  | cons k names ih =>
    cases n with
    | zero => rfl
    | succ n =>
      rw [List.take_succ_cons, List.mem_cons, not_or] at h
      rw [List.filter_cons_of_pos (by simpa using Ne.symm h.1), List.take_succ_cons,
        List.take_succ_cons, ih h.2]

/-- Without a name at the front there is room for one more. -/
theorem take_filter_of_mem {names : List String} {name : String} {n : Nat} (hnodup : names.Nodup)
    (h : name ∈ names.take (n + 1)) :
    (names.filter fun k => k ≠ name).take n = (names.take (n + 1)).filter fun k => k ≠ name := by
  induction names generalizing n with
  | nil => simp
  | cons k names ih =>
    rw [List.nodup_cons] at hnodup
    rw [List.take_succ_cons] at h ⊢
    -- the name is taken out either here, and stands nowhere behind, or further behind
    by_cases hk : k = name
    · subst hk
      have hfront : k ∉ names.take n := fun hmem => hnodup.1 (List.mem_of_mem_take hmem)
      have hself : (names.take n).filter (fun j => j ≠ k) = names.take n := by
        rw [List.filter_eq_self]
        intro j hj
        simp only [ne_eq, decide_eq_true_eq]
        rintro rfl
        exact hfront hj
      rw [List.filter_cons_of_neg (by simp), List.filter_cons_of_neg (by simp),
        take_filter_of_notMem hfront, hself]
    · have hmem : name ∈ names.take n := by
        rcases List.mem_cons.mp h with h | h
        · exact absurd h.symm hk
        · exact h
      cases n with
      | zero => cases hmem
      | succ n =>
        rw [List.filter_cons_of_pos (by simpa using hk), List.filter_cons_of_pos (by simpa using hk),
          List.take_succ_cons, ih hnodup.2 hmem]

/-- **The front of the list of all names is kept.** -/
theorem namesAfter_kept (limit : Option Nat) {names : List String} (hnodup : names.Nodup)
    (name : String) :
    namesAfter limit (kept limit names) name = kept limit (moveToFront names name) := by
  cases limit with
  | none =>
    simp only [namesAfter, kept, moveToFront, reduceCtorEq, if_false]
    split
    · rfl
    · next hmem =>
      have hself : names.filter (fun k => k ≠ name) = names := by
        rw [List.filter_eq_self]
        intro k hk
        simp only [ne_eq, decide_eq_true_eq]
        rintro rfl
        exact hmem hk
      rw [hself]
  | some n =>
    cases n with
    | zero => simp [namesAfter, kept]
    | succ n =>
      simp only [namesAfter, kept, moveToFront, List.take_succ_cons, Option.some.injEq,
        Nat.add_one_ne_zero, if_false]
      split
      · next hmem => rw [take_filter_of_mem hnodup hmem]
      · next hmem =>
        have hmem' : name ∉ names.take n := fun h =>
          hmem ((List.take_subset_take_left names (Nat.le_succ n)) h)
        rw [take_filter_of_notMem hmem']
        split
        · next hfull =>
          -- the last one of the front goes
          rw [List.dropLast_eq_take, ← hfull, Nat.add_sub_cancel, List.take_take,
            Nat.min_eq_left (Nat.le_succ n)]
        · next hroom =>
          have hlength : names.length ≤ n := by
            rw [List.length_take] at hroom
            omega
          rw [List.take_of_length_le hlength, List.take_of_length_le (Nat.le_succ_of_le hlength)]

end Recent
end ExprLang
