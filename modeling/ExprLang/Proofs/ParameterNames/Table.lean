import ExprLang.ParameterNames
import ExprLang.Proofs.Entries

/-!
# Names that are entered in a table

A table knows a method by its signature, one text in which the owner, the name and the number of
parameters follow each other.  The number can be told from the signature, since digits hold no slash.
Where the owner ends and the name begins cannot always be told: the colons between them may stand in an
owner or in a name as well.  Two methods clash if their signatures agree in spite of that, and then the
names that are entered for one of them are found for the other.  Without a clash a table knows for each
method what was entered for it last.

## Main definitions

* `Callee.CutsBefore`, `Callee.Clashes` — one path is the path of two methods; so is one signature.
* `ParameterTable.Registration`, `ParameterTable.ofRegistrations` — what is entered, and the table in
  which that was done.
* `ParameterTable.lastNames` — the names that were entered last for methods of a kind.

## Main results

* `Callee.signature_eq_iff`, `Callee.text_eq_iff` — what can be told from a signature and from a path.
* `Callee.clashes_iff` — methods clash if they have one signature and different owners.
* `ParameterTable.names?_of_registrations` — **a table knows the last names that were entered**.

## References

`SPEC_FULL.md`, 10.5; the reference's `signature` and its `ParameterNameTable`.
-/

namespace ExprLang

/-! ### Signatures -/

namespace Callee

variable {c d : Callee}

theorem toList_text (c : Callee) :
    c.text.toList = c.owner.toList ++ ':' :: ':' :: c.name.toList := by
  simp [text]

theorem toList_signature (c : Callee) :
    c.signature.toList = c.text.toList ++ '/' :: Nat.toDigits 10 c.arity := by
  simp [signature]

theorem slash_notMem_toDigits (n : Nat) : '/' ∉ Nat.toDigits 10 n := by
  intro h
  have hdigit := Nat.isDigit_of_mem_toDigits (by decide) (by decide) h
  exact absurd hdigit (by decide)

/-- A character that is not behind its place stands first. -/
private theorem eq_nil_of_cons_eq_append {x : Char} {a b b' : List Char} (hb : x ∉ b)
    (h : x :: b = a ++ x :: b') : a = [] := by
  cases a with
  | nil => rfl
  | cons y a =>
    obtain ⟨-, rfl⟩ := List.cons.inj h
    exact absurd (List.mem_append_right a List.mem_cons_self) hb

/-- The last slash divides a signature, so its two parts can be told from it. -/
theorem signature_eq_iff : c.signature = d.signature ↔ c.text = d.text ∧ c.arity = d.arity := by
  constructor
  · intro h
    have hlist := congrArg String.toList h
    rw [toList_signature, toList_signature] at hlist
    have hc := slash_notMem_toDigits c.arity
    have hd := slash_notMem_toDigits d.arity
    have hparts : c.text.toList = d.text.toList ∧
        Nat.toDigits 10 c.arity = Nat.toDigits 10 d.arity := by
      -- the texts are cut at the same slash, for the digits behind it contain none
      rcases List.append_eq_append_iff.mp hlist with ⟨rest, htext, hrest⟩ | ⟨rest, htext, hrest⟩
      · obtain rfl := eq_nil_of_cons_eq_append hc hrest
        rw [List.append_nil] at htext
        exact ⟨htext.symm, (List.cons.inj hrest).2⟩
      · obtain rfl := eq_nil_of_cons_eq_append hd hrest
        rw [List.append_nil] at htext
        exact ⟨htext, (List.cons.inj hrest).2.symm⟩
    refine ⟨String.toList_inj.mp hparts.1, ?_⟩
    have hvalue := congrArg (Nat.ofDigitChars 10 · 0) hparts.2
    simpa [Nat.ofDigitChars_toDigits] using hvalue
  · rintro ⟨htext, harity⟩
    rw [signature, signature, htext, harity]

/-! ### Paths -/

/-- Two methods have one path, of which the first method takes less for its owner than the second. -/
inductive CutsBefore (c d : Callee) : Prop
  /-- Between the two cuts is a part that is in the one method's name and in the other one's owner. -/
  | apart (part : String) (howner : d.owner = c.owner ++ "::" ++ part)
    (hname : c.name = part ++ "::" ++ d.name) : CutsBefore c d
  /-- The two cuts share a colon. -/
  | shared (howner : d.owner = c.owner ++ ":") (hname : c.name = ":" ++ d.name) : CutsBefore c d

theorem CutsBefore.text_eq (h : c.CutsBefore d) : c.text = d.text := by
  rw [← String.toList_inj, toList_text, toList_text]
  cases h with
  | apart part howner hname => simp [howner, hname]
  | shared howner hname => simp [howner, hname]

theorem CutsBefore.length_lt (h : c.CutsBefore d) :
    c.owner.toList.length < d.owner.toList.length := by
  cases h with
  | apart part howner hname =>
    simp only [howner, String.toList_append, List.length_append]
    have hcolons : "::".toList.length = 2 := rfl
    omega
  | shared howner hname =>
    simp only [howner, String.toList_append, List.length_append]
    have hcolon : ":".toList.length = 1 := rfl
    omega

theorem CutsBefore.colon_mem_name (h : c.CutsBefore d) : ':' ∈ c.name.toList := by
  cases h with
  | apart part howner hname => simp [hname]
  | shared howner hname => simp [hname]

/-- The ways in which the colons of a path can be met again further on. -/
private theorem cut_cases {a name name' : List Char}
    (h : ':' :: ':' :: name = a ++ ':' :: ':' :: name') :
    a = [] ∧ name = name' ∨ a = [':'] ∧ name = ':' :: name' ∨
      ∃ part, a = ':' :: ':' :: part ∧ name = part ++ ':' :: ':' :: name' := by
  match a, h with
  | [], h => exact .inl ⟨rfl, by simpa using h⟩
  | [x], h =>
    obtain ⟨rfl, h⟩ := List.cons.inj h
    exact .inr (.inl ⟨rfl, by simpa using h⟩)
  | x :: y :: part, h =>
    simp only [List.cons_append, List.cons.injEq] at h
    obtain ⟨rfl, rfl, hname⟩ := h
    exact .inr (.inr ⟨part, rfl, hname⟩)

private theorem cutsBefore_or_eq {a : List Char} (howner : d.owner.toList = c.owner.toList ++ a)
    (h : ':' :: ':' :: c.name.toList = a ++ ':' :: ':' :: d.name.toList) :
    c.owner = d.owner ∧ c.name = d.name ∨ c.CutsBefore d := by
  rcases cut_cases h with ⟨rfl, hname⟩ | ⟨rfl, hname⟩ | ⟨part, rfl, hname⟩
  · rw [List.append_nil] at howner
    exact .inl ⟨(String.toList_inj.mp howner).symm, String.toList_inj.mp hname⟩
  · refine .inr (.shared ?_ ?_)
    · rw [← String.toList_inj, howner]
      simp
    · rw [← String.toList_inj, hname]
      simp
  · refine .inr (.apart (String.ofList part) ?_ ?_)
    · rw [← String.toList_inj, howner]
      simp
    · rw [← String.toList_inj, hname]
      simp

/-- A path is cut in one place, or in one before another. -/
theorem text_eq_iff : c.text = d.text ↔
    c.owner = d.owner ∧ c.name = d.name ∨ c.CutsBefore d ∨ d.CutsBefore c := by
  constructor
  · intro h
    have hlist := congrArg String.toList h
    rw [toList_text, toList_text] at hlist
    rcases List.append_eq_append_iff.mp hlist with ⟨a, howner, hrest⟩ | ⟨a, howner, hrest⟩
    · exact (cutsBefore_or_eq howner hrest).imp_right .inl
    · rcases cutsBefore_or_eq howner hrest with ⟨howner, hname⟩ | hbefore
      · exact .inl ⟨howner.symm, hname.symm⟩
      · exact .inr (.inr hbefore)
  · rintro (⟨howner, hname⟩ | hbefore | hbefore)
    · rw [text, text, howner, hname]
    · exact hbefore.text_eq
    · exact hbefore.text_eq.symm

/-- Two methods share a signature though they are not the same. -/
def Clashes (c d : Callee) : Prop := (c.CutsBefore d ∨ d.CutsBefore c) ∧ c.arity = d.arity

/-- Without a clash the signature tells what a method is. -/
theorem signature_eq_iff_of_not_clashes (h : ¬ c.Clashes d) :
    c.signature = d.signature ↔ c.owner = d.owner ∧ c.name = d.name ∧ c.arity = d.arity := by
  rw [signature_eq_iff, text_eq_iff]
  constructor
  · rintro ⟨⟨howner, hname⟩ | hbefore, harity⟩
    · exact ⟨howner, hname, harity⟩
    · exact absurd ⟨hbefore, harity⟩ h
  · rintro ⟨howner, hname, harity⟩
    exact ⟨.inl ⟨howner, hname⟩, harity⟩

/-- A clash is just that: two methods with one signature. -/
theorem clashes_iff : c.Clashes d ↔ c.signature = d.signature ∧ c.owner ≠ d.owner := by
  constructor
  · rintro ⟨hbefore, harity⟩
    refine ⟨signature_eq_iff.mpr ⟨text_eq_iff.mpr (.inr hbefore), harity⟩, fun howner => ?_⟩
    rcases hbefore with hbefore | hbefore
    · exact absurd (howner ▸ hbefore.length_lt) (Nat.lt_irrefl _)
    · exact absurd (howner ▸ hbefore.length_lt) (Nat.lt_irrefl _)
  · rintro ⟨hsignature, howner⟩
    by_contra h
    exact howner ((signature_eq_iff_of_not_clashes h).mp hsignature).1

/-- Names without a colon do not clash, whatever the owners are. -/
theorem not_clashes_of_colon_notMem (hc : ':' ∉ c.name.toList) (hd : ':' ∉ d.name.toList) :
    ¬ c.Clashes d := by
  rintro ⟨hbefore | hbefore, -⟩
  · exact hc hbefore.colon_mem_name
  · exact hd hbefore.colon_mem_name

end Callee

/-! ### Tables -/

namespace ParameterTable

/-- What is entered in a table. -/
structure Registration where
  owner : String
  method : String
  names : List String
  deriving DecidableEq

namespace Registration

/-- The method that names are entered for. -/
def callee (r : Registration) : Callee := ⟨r.owner, r.method, r.names.length, none⟩

/-- All that tells the method from others. -/
def triple (r : Registration) : String × String × Nat := (r.owner, r.method, r.names.length)

end Registration

/-- The table in which names were entered one after the other. -/
def ofRegistrations (rs : List Registration) : ParameterTable :=
  rs.foldl (fun t r => t.register r.owner r.method r.names) empty

/-- The names that were entered last for the methods of a kind. -/
def lastNames (rs : List Registration) (kind : Registration → Bool) : Option (List String) :=
  (rs.filter kind).getLast?.map Registration.names

theorem lastNames_congr {rs : List Registration} {kind kind' : Registration → Bool}
    (h : ∀ r ∈ rs, kind r = kind' r) : lastNames rs kind = lastNames rs kind' := by
  rw [lastNames, lastNames, List.filter_congr h]

/-- A table holds the names as they were entered under the signatures. -/
theorem entries_ofRegistrations (rs : List Registration) :
    (ofRegistrations rs).entries =
      Entries.ofPairs (rs.map fun r => (r.callee.signature, r.names)) := by
  rw [Entries.ofPairs, List.foldl_map, ofRegistrations]
  exact (List.foldl_hom entries fun t r => rfl).symm

/-- What a table knows of a method is what was entered last under its signature. -/
theorem names?_ofRegistrations (rs : List Registration) (d : Callee) :
    (ofRegistrations rs).names? d =
      lastNames rs fun r => r.callee.signature = d.signature := by
  rw [names?, entries_ofRegistrations, Entries.get?_ofPairs, List.filter_map, List.getLast?_map,
    Option.map_map]
  rfl

theorem size_ofRegistrations (rs : List Registration) :
    (ofRegistrations rs).size = (rs.map fun r => r.callee.signature).toFinset.card := by
  rw [size, entries_ofRegistrations, Entries.length_ofPairs, List.map_map]
  rfl

/-- There are as many values of one function as of another that tells the same apart. -/
theorem card_map_congr {α β γ : Type} [DecidableEq β] [DecidableEq γ] {f : α → β} {g : α → γ}
    {l : List α} (h : ∀ a ∈ l, ∀ b ∈ l, f a = f b ↔ g a = g b) :
    (l.map f).toFinset.card = (l.map g).toFinset.card := by
  induction l with
  | nil => rfl
  | cons a l ih =>
    have hmem : f a ∈ (l.map f).toFinset ↔ g a ∈ (l.map g).toFinset := by
      simp only [List.mem_toFinset, List.mem_map]
      refine exists_congr fun b => and_congr_right fun hb => ?_
      exact h b (List.mem_cons_of_mem a hb) a List.mem_cons_self
    have ih := ih fun b hb b' hb' => h b (List.mem_cons_of_mem a hb) b' (List.mem_cons_of_mem a hb')
    rw [List.map_cons, List.map_cons, List.toFinset_cons, List.toFinset_cons,
      Finset.card_insert_eq_ite, Finset.card_insert_eq_ite, ih]
    simp only [hmem]

/-- **A table knows the last names that were entered.**  Whatever was entered in a table

* for a method the names are found that were entered last for a method with its path and with as many
  parameters, and there are as many entries as there are paths with numbers of parameters;
* a method that clashes with none for which names were entered has the names that were entered last for
  itself, and if no two of the methods clash there are as many entries as methods;
* methods whose names hold no colon do not clash. -/
theorem names?_of_registrations (rs : List Registration) :
    let t := ofRegistrations rs
    (∀ d : Callee, t.names? d =
      lastNames rs fun r => r.callee.text = d.text ∧ r.names.length = d.arity) ∧
    t.size = (rs.map fun r => (r.callee.text, r.names.length)).toFinset.card ∧
    (∀ d : Callee, (∀ r ∈ rs, ¬ r.callee.Clashes d) → t.names? d =
      lastNames rs fun r => r.owner = d.owner ∧ r.method = d.name ∧ r.names.length = d.arity) ∧
    ((∀ r ∈ rs, ∀ r' ∈ rs, ¬ r.callee.Clashes r'.callee) →
      t.size = (rs.map Registration.triple).toFinset.card) ∧
    ∀ c d : Callee, ':' ∉ c.name.toList → ':' ∉ d.name.toList → ¬ c.Clashes d := by
  -- the table goes by signatures; without a clash these tell owner, method and arity apart
  intro t
  refine ⟨fun d => ?_, ?_, fun d hd => ?_, fun hrs => ?_,
    fun c d hc hd => Callee.not_clashes_of_colon_notMem hc hd⟩
  · rw [names?_ofRegistrations]
    refine lastNames_congr fun r _ => ?_
    simp only [Callee.signature_eq_iff]
    rfl
  · rw [size_ofRegistrations]
    refine card_map_congr fun r _ r' _ => ?_
    rw [Callee.signature_eq_iff, Prod.mk.injEq]
    rfl
  · rw [names?_ofRegistrations]
    refine lastNames_congr fun r hr => ?_
    simp only [Callee.signature_eq_iff_of_not_clashes (hd r hr)]
    rfl
  · rw [size_ofRegistrations]
    refine card_map_congr fun r hr r' hr' => ?_
    rw [Callee.signature_eq_iff_of_not_clashes (hrs r hr r' hr'), Registration.triple,
      Registration.triple, Prod.mk.injEq, Prod.mk.injEq]
    rfl

/-- Owners may well be paths: three registrations, of which one takes the place of another. -/
theorem names?_of_path_owners :
    let rs : List Registration := [⟨"shop::cart", "add", ["item"]⟩,
      ⟨"shop::cart", "add", ["item", "count"]⟩, ⟨"shop::cart", "add", ["entry"]⟩]
    let d : Callee := ⟨"shop::cart", "add", 1, none⟩
    (∀ r ∈ rs, ¬ r.callee.Clashes d) ∧ (∀ r ∈ rs, ∀ r' ∈ rs, ¬ r.callee.Clashes r'.callee) ∧
      (ofRegistrations rs).names? d = some ["entry"] ∧ (ofRegistrations rs).size = 2 := by
  intro rs d
  obtain ⟨-, -, hnames, hsize, hplain⟩ := names?_of_registrations rs
  have hcolon : ∀ r ∈ rs, ':' ∉ r.method.toList := by decide
  have hd : ∀ r ∈ rs, ¬ r.callee.Clashes d := fun r hr => hplain _ _ (hcolon r hr) (by decide)
  have hrs : ∀ r ∈ rs, ∀ r' ∈ rs, ¬ r.callee.Clashes r'.callee :=
    fun r hr r' hr' => hplain _ _ (hcolon r hr) (hcolon r' hr')
  refine ⟨hd, hrs, ?_, ?_⟩
  · rw [hnames d hd]
    decide
  · rw [hsize hrs]
    decide

/-- Where two paths clash, names are found for a method that none were entered for, and of two methods
the one takes the place of the other. -/
theorem names?_of_clashing_paths :
    let rs : List Registration := [⟨"a::b", "c", ["x"]⟩]
    let d : Callee := ⟨"a", "b::c", 1, none⟩
    let both : List Registration := rs ++ [⟨"a", "b::c", ["y"]⟩]
    (ofRegistrations rs).names? d = some ["x"] ∧
      (lastNames rs fun r => r.owner = d.owner ∧ r.method = d.name ∧ r.names.length = d.arity) =
        none ∧
      (ofRegistrations both).size = 1 ∧ (both.map Registration.triple).toFinset.card = 2 := by
  decide +kernel

end ParameterTable
end ExprLang
