/-!
# Named entries

Values under names, in the order in which the names were first given.

## Main definitions

* `Entries` — names with values.
* `Entries.get?`, `insert`, `erase`, `ofPairs`, `keys` — the operations.
* `Entries.insertSorted` — entries kept in the order of their names.

## References

`SPEC_FULL.md`, 10.1, on maps; the reference's `ValueMap`.
-/

namespace ExprLang

/-- Names with values.  Every operation here keeps the names distinct. -/
abbrev Entries (α : Type) := List (String × α)

namespace Entries

variable {α : Type}

/-- The value under a name. -/
def get? : Entries α → String → Option α
  | [], _ => none
  | (k, v) :: rest, name => if k = name then some v else get? rest name

/-- Whether there is a value under a name. -/
def contains (m : Entries α) (name : String) : Bool := (get? m name).isSome

/-- The names in their order. -/
def keys (m : Entries α) : List String := m.map Prod.fst

/-- Puts a value under a name: in place of the old one, or at the end. -/
def insert : Entries α → String → α → Entries α
  | [], name, value => [(name, value)]
  | (k, v) :: rest, name, value =>
    if k = name then (k, value) :: rest else (k, v) :: insert rest name value

/-- Takes a name and its value out. -/
def erase (m : Entries α) (name : String) : Entries α := m.filter fun p => p.1 ≠ name

/-- The entries that result from inserting pairs one after the other. -/
def ofPairs (pairs : List (String × α)) : Entries α :=
  pairs.foldl (fun m p => insert m p.1 p.2) []

/-- Puts a value under a name among entries in ascending order of their names. -/
def insertSorted : Entries α → String → α → Entries α
  | [], name, value => [(name, value)]
  | (k, v) :: rest, name, value =>
    if k = name then (k, value) :: rest
    else if name < k then (name, value) :: (k, v) :: rest
    else (k, v) :: insertSorted rest name value

/-- The entries in ascending order of their names that result from inserting pairs. -/
def sorted (pairs : List (String × α)) : Entries α :=
  pairs.foldl (fun m p => insertSorted m p.1 p.2) []

@[simp] theorem get?_nil (name : String) : get? ([] : Entries α) name = none := rfl

/-- An insertion is seen under its own name and under no other. -/
theorem get?_insert (m : Entries α) (name : String) (value : α) (other : String) :
    get? (insert m name value) other = if name = other then some value else get? m other := by
  induction m with
  | nil => simp [insert, get?]
  | cons p m ih =>
    obtain ⟨k, v⟩ := p
    by_cases hk : k = name
    · subst hk
      by_cases ho : k = other <;> simp [insert, get?, ho]
    · by_cases ho : k = other
      · subst ho
        simp [insert, get?, hk, Ne.symm hk]
      · simp [insert, get?, hk, ho, ih]

/-! ### Names and members -/

theorem mem_of_get? {m : Entries α} {name : String} {value : α} (h : get? m name = some value) :
    (name, value) ∈ m := by
  induction m with
  | nil => cases h
  | cons p m ih =>
    obtain ⟨k, v⟩ := p
    rw [get?] at h
    split at h
    · next hk =>
      cases h
      rw [hk]
      exact List.mem_cons_self
    · exact List.mem_cons_of_mem _ (ih h)

/-- Among distinct names, every entry is the one that its name finds. -/
theorem get?_of_mem {m : Entries α} (hm : (keys m).Nodup) {p : String × α} (h : p ∈ m) :
    get? m p.1 = some p.2 := by
  induction m with
  | nil => cases h
  | cons q m ih =>
    obtain ⟨hq, hm⟩ := List.nodup_cons.mp hm
    rcases List.mem_cons.mp h with rfl | h
    · exact if_pos rfl
    · have hne : q.1 ≠ p.1 := fun heq => hq (heq ▸ List.mem_map_of_mem h)
      rw [get?, if_neg hne]
      exact ih hm h

theorem mem_keys_of_mem {m : Entries α} {p : String × α} (h : p ∈ m) : p.1 ∈ keys m :=
  List.mem_map_of_mem h

/-- There is a value under exactly the names that are there. -/
theorem mem_keys_iff {m : Entries α} {name : String} :
    name ∈ keys m ↔ ∃ value, get? m name = some value := by
  refine ⟨fun h => ?_, fun ⟨value, h⟩ => mem_keys_of_mem (mem_of_get? h)⟩
  induction m with
  | nil => cases h
  | cons p m ih =>
    obtain ⟨k, v⟩ := p
    by_cases hk : k = name
    · exact ⟨v, by simp [get?, hk]⟩
    · obtain ⟨value, hvalue⟩ := ih (by simpa [keys, Ne.symm hk] using h)
      exact ⟨value, by simp [get?, hk, hvalue]⟩

theorem get?_eq_none_iff {m : Entries α} {name : String} : get? m name = none ↔ name ∉ keys m := by
  rw [mem_keys_iff]
  cases get? m name <;> simp

theorem mem_erase {m : Entries α} {name : String} {p : String × α} :
    p ∈ erase m name ↔ p ∈ m ∧ p.1 ≠ name := by
  simp [erase]

theorem keys_erase (m : Entries α) (name : String) :
    keys (erase m name) = (keys m).filter fun k => k ≠ name := by
  simp [keys, erase, List.filter_map, Function.comp_def]

/-- A new name comes last. -/
theorem keys_insert (m : Entries α) (name : String) (value : α) :
    keys (insert m name value) = if name ∈ keys m then keys m else keys m ++ [name] := by
  induction m with
  | nil => rfl
  | cons p m ih =>
    obtain ⟨k, v⟩ := p
    by_cases hk : k = name
    · simp [insert, keys, hk]
    · have hkeys : keys ((k, v) :: m) = k :: keys m := rfl
      rw [insert, if_neg hk, hkeys]
      change k :: keys (insert m name value) = _
      rw [ih]
      by_cases hname : name ∈ keys m <;> simp [hname, Ne.symm hk]

/-- Names stay distinct. -/
theorem nodup_insert {m : Entries α} (hm : (keys m).Nodup) (name : String) (value : α) :
    (keys (insert m name value)).Nodup := by
  rw [keys_insert]
  split
  · exact hm
  · rename_i hname
    rw [List.nodup_append]
    refine ⟨hm, by simp, ?_⟩
    rintro k hk k' hk' rfl
    exact hname (List.mem_singleton.mp hk' ▸ hk)

theorem nodup_filter {m : Entries α} (hm : (keys m).Nodup) (keep : String × α → Bool) :
    (keys (m.filter keep)).Nodup :=
  hm.sublist (List.filter_sublist.map _)

/-- After an insertion there is nothing but what was there before and the new entry. -/
theorem mem_or_eq_of_mem_insert {m : Entries α} {name : String} {value : α} {p : String × α}
    (h : p ∈ insert m name value) : p ∈ m ∨ p = (name, value) := by
  induction m with
  | nil => exact .inr (by simpa [insert] using h)
  | cons q m ih =>
    obtain ⟨k, v⟩ := q
    rw [insert] at h
    split at h
    · next hk =>
      rcases List.mem_cons.mp h with rfl | h
      · exact .inr (by rw [hk])
      · exact .inl (List.mem_cons_of_mem _ h)
    · rcases List.mem_cons.mp h with rfl | h
      · exact .inl List.mem_cons_self
      · exact (ih h).imp_left (List.mem_cons_of_mem _)

/-- A value that passes a filter is still the one under its name. -/
theorem get?_filter {m : Entries α} {keep : String × α → Bool} {name : String} {value : α}
    (h : get? m name = some value) (hkeep : keep (name, value)) :
    get? (m.filter keep) name = some value := by
  induction m with
  | nil => cases h
  | cons p m ih =>
    obtain ⟨k, v⟩ := p
    rw [get?] at h
    split at h
    · next hk =>
      cases h
      subst hk
      simp [hkeep, get?]
    · next hk =>
      rw [List.filter_cons]
      split
      · simpa [get?, hk] using ih h
      · exact ih h

/-! ### Pairs that are inserted one after the other -/

/-- What was there before is found where no pair has the name. -/
theorem get?_foldl_insert (m : Entries α) (pairs : List (String × α)) (name : String) :
    get? (pairs.foldl (fun m p => insert m p.1 p.2) m) name =
      (((pairs.filter fun p => p.1 = name).getLast?).map Prod.snd).or (get? m name) := by
  induction pairs generalizing m with
  | nil => simp
  | cons p pairs ih =>
    rw [List.foldl_cons, ih, get?_insert]
    by_cases hname : p.1 = name
    · -- the pair counts unless a later one has the name as well
      rw [if_pos hname, List.filter_cons_of_pos (by simpa using hname), List.getLast?_cons]
      cases (pairs.filter fun p => p.1 = name).getLast? <;> rfl
    · rw [if_neg hname, List.filter_cons_of_neg (by simpa using hname)]

/-- Of the pairs with a name the last one counts. -/
theorem get?_ofPairs (pairs : List (String × α)) (name : String) :
    get? (ofPairs pairs) name = ((pairs.filter fun p => p.1 = name).getLast?).map Prod.snd := by
  rw [ofPairs, get?_foldl_insert, get?_nil, Option.or_none]

theorem mem_keys_foldl_insert (m : Entries α) (pairs : List (String × α)) (name : String) :
    name ∈ keys (pairs.foldl (fun m p => insert m p.1 p.2) m) ↔
      name ∈ keys m ∨ name ∈ pairs.map Prod.fst := by
  induction pairs generalizing m with
  | nil => simp
  | cons p pairs ih =>
    have hinsert : name ∈ keys (insert m p.1 p.2) ↔ name ∈ keys m ∨ name = p.1 := by
      rw [keys_insert]
      split
      · next hmem => exact (or_iff_left_of_imp fun heq => heq ▸ hmem).symm
      · simp
    rw [List.foldl_cons, ih, hinsert, List.map_cons, List.mem_cons, or_assoc]

/-- There is a value under exactly the names of the pairs. -/
theorem mem_keys_ofPairs (pairs : List (String × α)) (name : String) :
    name ∈ keys (ofPairs pairs) ↔ name ∈ pairs.map Prod.fst := by
  rw [ofPairs, mem_keys_foldl_insert]
  exact or_iff_right List.not_mem_nil

theorem nodup_foldl_insert {m : Entries α} (hm : (keys m).Nodup) (pairs : List (String × α)) :
    (keys (pairs.foldl (fun m p => insert m p.1 p.2) m)).Nodup := by
  induction pairs generalizing m with
  | nil => exact hm
  | cons p pairs ih => exact ih (nodup_insert hm p.1 p.2)

theorem nodup_ofPairs (pairs : List (String × α)) : (keys (ofPairs pairs)).Nodup :=
  nodup_foldl_insert (m := []) List.nodup_nil pairs

end Entries
end ExprLang
