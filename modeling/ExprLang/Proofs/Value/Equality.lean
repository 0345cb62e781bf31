import Mathlib.Data.List.Forall2
import Mathlib.Data.List.Perm.Subperm
import ExprLang.Proofs.Value.Parts
import ExprLang.Value.Equality

/-!
# Equality of values is an equivalence

Atoms are equal if they are the same atom, and equality of lists and maps comes down to their parts.
A map looks up the names of only one side.  With equally many entries and no name twice on either
side that is enough for the other direction: the names that were looked up are then all there are.

## Main results

* `Value.agree_list_iff`, `Value.agree_map_iff` — agreement in terms of the parts.
* `Value.equals_refl`, `Value.equals_symm`, `Value.equals_trans` — **the equality of the language is
  an equivalence** of well-formed values.
* `Value.equals_of_identical` — it is the coarser of the two equalities.
-/

namespace ExprLang

/-- If the distinct names of `xs` are all in `ys`, which has no more entries, they are all its
names. -/
theorem Entries.keys_subset_of_length_eq {α β : Type} {xs : Entries α} {ys : Entries β}
    (hnodup : (keys xs).Nodup) (hlength : xs.length = ys.length) (h : keys xs ⊆ keys ys) :
    keys ys ⊆ keys xs := by
  have hperm : (keys xs).Perm (keys ys) :=
    (List.subperm_of_subset hnodup h).perm_of_length_le (by simp [keys, hlength])
  exact hperm.symm.subset

namespace Value

/-! ### Agreement by parts -/

section Agreement

variable {scalar : Value → Value → Bool}

theorem agreeItems_iff_forall₂ {xs ys : List Value} :
    agreeItems scalar xs ys ↔ List.Forall₂ (fun x y => agree scalar x y) xs ys := by
  induction xs generalizing ys with
  | nil => cases ys <;> simp [agreeItems]
  | cons x xs ih => cases ys <;> simp [agreeItems, ih]

theorem agreeItems_iff {xs ys : List Value} :
    agreeItems scalar xs ys ↔ xs.length = ys.length ∧
      ∀ i (_ : i < xs.length) (_ : i < ys.length), agree scalar xs[i] ys[i] := by
  rw [agreeItems_iff_forall₂, List.forall₂_iff_get]
  rfl

theorem agreeEntries_iff {xs ys : Entries Value} :
    agreeEntries scalar xs ys ↔
      ∀ p ∈ xs, ∃ y, Entries.get? ys p.1 = some y ∧ agree scalar p.2 y := by
  induction xs with
  | nil => simp [agreeEntries]
  | cons p xs ih =>
    obtain ⟨k, x⟩ := p
    rw [agreeEntries, Bool.and_eq_true, ih, List.forall_mem_cons]
    cases Entries.get? ys k <;> simp

theorem agree_list_iff {xs : List Value} {b : Value} :
    agree scalar (list xs) b ↔
      ∃ ys, b = list ys ∧ xs.length = ys.length ∧
        ∀ i (_ : i < xs.length) (_ : i < ys.length), agree scalar xs[i] ys[i] := by
  cases b <;> simp [agree, agreeItems_iff]

theorem agree_map_iff {xs : Entries Value} {b : Value} :
    agree scalar (map xs) b ↔
      ∃ ys, b = map ys ∧ xs.length = ys.length ∧
        ∀ p ∈ xs, ∃ y, Entries.get? ys p.1 = some y ∧ agree scalar p.2 y := by
  cases b <;> simp [agree, agreeEntries_iff]

theorem agree_of_atom {a : Value} {x : Atom} (ha : a.atom? = some x) (b : Value) :
    agree scalar a b = scalar a b := by
  cases a with
  | list | map => cases ha
  | _ => rfl

/-- Agreement grows with the relation of the values without parts. -/
theorem agree_mono {scalar' : Value → Value → Bool}
    (hscalar : ∀ a b, scalar a b → scalar' a b) :
    ∀ a b, agree scalar a b → agree scalar' a b := by
  intro a
  -- the two values have one shape, and the leaves are compared by `scalar`
  induction a using Value.induction with
  | atom a x ha =>
    intro b h
    rw [agree_of_atom ha] at h ⊢
    exact hscalar a b h
  | list xs ih =>
    intro b h
    obtain ⟨ys, rfl, hlength, hitems⟩ := agree_list_iff.mp h
    exact agree_list_iff.mpr ⟨ys, rfl, hlength, fun i hx hy =>
      ih xs[i] (List.getElem_mem hx) ys[i] (hitems i hx hy)⟩
  | map xs ih =>
    intro b h
    obtain ⟨ys, rfl, hlength, hentries⟩ := agree_map_iff.mp h
    refine agree_map_iff.mpr ⟨ys, rfl, hlength, fun p hp => ?_⟩
    obtain ⟨y, hy, hxy⟩ := hentries p hp
    exact ⟨y, hy, ih p hp y hxy⟩

end Agreement

/-! ### Atoms -/

/-- Values without parts are equal exactly if they are one atom. -/
theorem scalarEquals_iff {a b : Value} :
    scalarEquals a b ↔ a.atom? = b.atom? ∧ a.atom? ≠ none := by
  cases a <;> cases b <;>
    simp [scalarEquals, scalarIdentical, atom?, Decimal.sameValue_iff, Int64.toInt_inj]

theorem scalarEquals_of_scalarIdentical (a b : Value) (h : scalarIdentical a b) :
    scalarEquals a b := by
  cases a <;> cases b <;> first | exact h | cases h

theorem equals_iff_of_atom {a : Value} {x : Atom} (ha : a.atom? = some x) (b : Value) :
    a.equals b ↔ b.atom? = some x := by
  rw [equals, agree_of_atom ha, scalarEquals_iff, ha]
  simp [eq_comm]

/-! ### The equivalence -/

theorem equals_refl (a : Value) : a.WellFormed → a.equals a := by
  induction a using Value.induction with
  | atom a x ha => exact fun _ => (equals_iff_of_atom ha a).mpr ha
  | list xs ih =>
    intro hxs
    have hparts := wellFormed_list_iff.mp hxs
    refine agree_list_iff.mpr ⟨xs, rfl, rfl, fun i hx _ => ?_⟩
    have hmem : xs[i] ∈ xs := List.getElem_mem hx
    exact ih xs[i] hmem (hparts xs[i] hmem)
  | map xs ih =>
    intro hxs
    obtain ⟨hnodup, hparts⟩ := wellFormed_map_iff.mp hxs
    exact agree_map_iff.mpr ⟨xs, rfl, rfl, fun p hp =>
      ⟨p.2, Entries.get?_of_mem hnodup hp, ih p hp (hparts p hp)⟩⟩

theorem equals_symm (a : Value) :
    ∀ b : Value, a.WellFormed → b.WellFormed → a.equals b → b.equals a := by
  induction a using Value.induction with
  | atom a x ha =>
    intro b _ _ h
    have hb : b.atom? = some x := (equals_iff_of_atom ha b).mp h
    exact (equals_iff_of_atom hb a).mpr ha
  | list xs ih =>
    intro b hxs hb h
    obtain ⟨ys, rfl, hlength, hitems⟩ := agree_list_iff.mp h
    have hpartsx := wellFormed_list_iff.mp hxs
    have hpartsy := wellFormed_list_iff.mp hb
    refine agree_list_iff.mpr ⟨xs, rfl, hlength.symm, fun i hy hx => ?_⟩
    have hmemx : xs[i] ∈ xs := List.getElem_mem hx
    have hmemy : ys[i] ∈ ys := List.getElem_mem hy
    exact ih xs[i] hmemx ys[i] (hpartsx _ hmemx) (hpartsy _ hmemy) (hitems i hx hy)
  | map xs ih =>
    intro b hxs hb h
    obtain ⟨ys, rfl, hlength, hentries⟩ := agree_map_iff.mp h
    obtain ⟨hnodupx, hpartsx⟩ := wellFormed_map_iff.mp hxs
    obtain ⟨hnodupy, hpartsy⟩ := wellFormed_map_iff.mp hb
    -- every name of `xs` is found in `ys`, which leaves no other names to `ys`
    have hsubset : Entries.keys ys ⊆ Entries.keys xs := by
      refine Entries.keys_subset_of_length_eq hnodupx hlength fun k hk => ?_
      obtain ⟨x, hx⟩ := Entries.mem_keys_iff.mp hk
      obtain ⟨y, hy, -⟩ := hentries _ (Entries.mem_of_get? hx)
      exact Entries.mem_keys_iff.mpr ⟨y, hy⟩
    refine agree_map_iff.mpr ⟨xs, rfl, hlength.symm, fun q hq => ?_⟩
    obtain ⟨x, hx⟩ := Entries.mem_keys_iff.mp (hsubset (Entries.mem_keys_of_mem hq))
    have hp : (q.1, x) ∈ xs := Entries.mem_of_get? hx
    obtain ⟨y, hy, hxy⟩ := hentries _ hp
    -- the entry of `ys` that `xs` found under this name is `q` itself
    have hyq : y = q.2 := Option.some.inj (hy.symm.trans (Entries.get?_of_mem hnodupy hq))
    subst hyq
    exact ⟨x, hx, ih _ hp _ (hpartsx _ hp) (hpartsy q hq) hxy⟩

theorem equals_trans (a : Value) :
    ∀ b c : Value, a.equals b → b.equals c → a.equals c := by
  induction a using Value.induction with
  | atom a x ha =>
    intro b c hab hbc
    have hb : b.atom? = some x := (equals_iff_of_atom ha b).mp hab
    exact (equals_iff_of_atom ha c).mpr ((equals_iff_of_atom hb c).mp hbc)
  | list xs ih =>
    intro b c hab hbc
    obtain ⟨ys, rfl, hlengthxy, hxy⟩ := agree_list_iff.mp hab
    obtain ⟨zs, rfl, hlengthyz, hyz⟩ := agree_list_iff.mp hbc
    refine agree_list_iff.mpr ⟨zs, rfl, hlengthxy.trans hlengthyz, fun i hx hz => ?_⟩
    have hy : i < ys.length := hlengthxy ▸ hx
    exact ih xs[i] (List.getElem_mem hx) ys[i] zs[i] (hxy i hx hy) (hyz i hy hz)
  | map xs ih =>
    intro b c hab hbc
    obtain ⟨ys, rfl, hlengthxy, hxy⟩ := agree_map_iff.mp hab
    obtain ⟨zs, rfl, hlengthyz, hyz⟩ := agree_map_iff.mp hbc
    refine agree_map_iff.mpr ⟨zs, rfl, hlengthxy.trans hlengthyz, fun p hp => ?_⟩
    -- what is found in `ys` is an entry there, so it is looked up in `zs` in turn
    obtain ⟨y, hy, hpy⟩ := hxy p hp
    obtain ⟨z, hz, hyz⟩ := hyz _ (Entries.mem_of_get? hy)
    exact ⟨z, hz, ih p hp y z hpy hyz⟩

/-- The equality that tells integers from decimals is the finer one. -/
theorem equals_of_identical (a b : Value) (h : a.identical b) : a.equals b :=
  agree_mono scalarEquals_of_scalarIdentical a b h

end Value
end ExprLang
