import ExprLang.Call
import ExprLang.Proofs.Entries

/-!
# Arguments are bound by position

Sources of names can be put into a chain, and chains into chains.  However that is done, what counts
is the row of the single sources: the first of them that knows names for a method is believed, and the
others are not asked any more, not even if it turns out that the number of the names is wrong.  A call
with as many arguments as there are names binds them place by place.  Any other call binds nothing.

## Main definitions

* `NameSource.FirstKnown` — the names that the first single source with names knows.
* `NameSource.Spliced` — a chain in a chain has made way for its elements, at any depth.
* `Context.BindsByPosition` — names are bound to values, place by place.
* `Call.Unbound` — the reasons for which a call binds nothing.

## Main results

* `NameSource.names?_eq_findSome?` — **a source knows what the first of its single sources knows**.
* `Call.context_binds_by_position` — **a call binds its arguments by position or not at all**.

## References

`SPEC_FULL.md`, 4.2 and 8; the reference's `from_invocation_with`.
-/

namespace ExprLang

/-! ### Sources -/

namespace NameSource

variable {callee : Callee}

/-- The names for a method that the first single source with names for it knows. -/
def FirstKnown (s : NameSource) (callee : Callee) (names : List String) : Prop :=
  ∃ before leaf after, s.leaves = before ++ leaf :: after ∧
    (∀ other ∈ before, other.names? callee = none) ∧ leaf.names? callee = some names

/-- The second source is the first one in which the elements of a chain in a chain stand in place of
that chain. -/
inductive Spliced : NameSource → NameSource → Prop
  | here (before inner after : List NameSource) :
      Spliced (chain (before ++ chain inner :: after)) (chain (before ++ inner ++ after))
  | inside (before after : List NameSource) {s t : NameSource} (h : Spliced s t) :
      Spliced (chain (before ++ s :: after)) (chain (before ++ t :: after))

@[simp] theorem leaves_chain (sources : List NameSource) :
    (chain sources).leaves = leavesOfAll sources := rfl

@[simp] theorem leavesOfAll_append (before after : List NameSource) :
    leavesOfAll (before ++ after) = leavesOfAll before ++ leavesOfAll after := by
  induction before with
  | nil => rfl
  | cons s before ih => rw [List.cons_append, leavesOfAll, leavesOfAll, ih, List.append_assoc]

mutual

/-- The leaves are single sources. -/
theorem ne_chain_of_mem_leaves : ∀ {s leaf : NameSource}, leaf ∈ s.leaves →
    ∀ sources, leaf ≠ chain sources
  | declared, _, h, sources => by
    rw [List.mem_singleton.mp h]
    exact nofun
  | table _, _, h, sources => by
    rw [List.mem_singleton.mp h]
    exact nofun
  | function _, _, h, sources => by
    rw [List.mem_singleton.mp h]
    exact nofun
  | chain _, _, h, sources => ne_chain_of_mem_leavesOfAll h sources

theorem ne_chain_of_mem_leavesOfAll : ∀ {ss : List NameSource} {leaf : NameSource},
    leaf ∈ leavesOfAll ss → ∀ sources, leaf ≠ chain sources
  | s :: _, _, h, sources => by
    rcases List.mem_append.mp h with h | h
    · exact ne_chain_of_mem_leaves h sources
    · exact ne_chain_of_mem_leavesOfAll h sources

end

mutual

/-- **A source knows what the first of its single sources knows.** -/
theorem names?_eq_findSome? (callee : Callee) :
    ∀ s : NameSource, s.names? callee = s.leaves.findSome? fun leaf => leaf.names? callee
  | declared => List.findSome?_singleton.symm
  | table _ => List.findSome?_singleton.symm
  | function _ => List.findSome?_singleton.symm
  | chain sources => by rw [names?, leaves, firstNames?_eq_findSome? callee sources]

theorem firstNames?_eq_findSome? (callee : Callee) : ∀ sources : List NameSource,
    firstNames? callee sources = (leavesOfAll sources).findSome? fun leaf => leaf.names? callee
  | [] => rfl
  | s :: rest => by
    rw [firstNames?, leavesOfAll, List.findSome?_append, ← names?_eq_findSome? callee s,
      ← firstNames?_eq_findSome? callee rest]
    cases s.names? callee <;> rfl

end

theorem names?_eq_some_iff {s : NameSource} {names : List String} :
    s.names? callee = some names ↔ s.FirstKnown callee names := by
  rw [names?_eq_findSome?, List.findSome?_eq_some_iff]
  constructor
  · rintro ⟨before, leaf, after, hleaves, hleaf, hbefore⟩
    exact ⟨before, leaf, after, hleaves, hbefore, hleaf⟩
  · rintro ⟨before, leaf, after, hleaves, hbefore, hleaf⟩
    exact ⟨before, leaf, after, hleaves, hleaf, hbefore⟩

theorem names?_eq_none_iff {s : NameSource} :
    s.names? callee = none ↔ ∀ leaf ∈ s.leaves, leaf.names? callee = none := by
  rw [names?_eq_findSome?, List.findSome?_eq_none_iff]

/-- Splicing leaves the single sources where they are. -/
theorem Spliced.leaves_eq {s t : NameSource} (h : s.Spliced t) : t.leaves = s.leaves := by
  induction h with
  | here before inner after => simp [leavesOfAll]
  | inside before after _ ih => simp [leavesOfAll, ih]

theorem Spliced.names?_eq {s t : NameSource} (h : s.Spliced t) :
    t.names? callee = s.names? callee := by
  rw [names?_eq_findSome?, names?_eq_findSome?, h.leaves_eq]

end NameSource

/-! ### Bindings -/

/-- The context has nothing but bindings of the names to the values, made one after the other. -/
structure Context.BindsByPosition (c : Context) (names : List String) (values : List Value) :
    Prop where
  inserted : c = (names.zip values).foldl (fun c p => c.withBinding p.1 p.2) .empty
  /-- Of the places of a name the last one counts. -/
  binding_iff : ∀ name value, c.binding? name = some value ↔
    ∃ i : ℕ, names[i]? = some name ∧ values[i]? = some value ∧
      ∀ j : ℕ, i < j → names[j]? ≠ some name
  /-- The names stand in the order of their first places. -/
  order : c.bindings.keys = names.eraseDups
  size : c.bindings.length = names.toFinset.card

/-- Bindings made one after the other are entries made of the pairs. -/
theorem Context.ofPairs_eq_foldl (pairs : List (String × Value)) :
    ofPairs pairs = pairs.foldl (fun c p => c.withBinding p.1 p.2) empty :=
  (List.foldl_hom (fun m => (⟨m, none⟩ : Context)) fun _ _ => rfl).symm

theorem Context.ofPairs_zip_binds {names : List String} {values : List Value}
    (h : names.length = values.length) :
    (ofPairs (names.zip values)).BindsByPosition names values where
  inserted := ofPairs_eq_foldl _
  binding_iff name value := by
    have hiff : (Entries.ofPairs (names.zip values)).get? name = some value ↔ _ :=
      Entries.get?_ofPairs_iff
    rw [List.map_fst_zip (Nat.le_of_eq h)] at hiff
    simp only [List.getElem?_zip_eq_some, and_assoc] at hiff
    exact hiff
  order := by
    have hkeys := Entries.keys_ofPairs (names.zip values)
    rwa [List.map_fst_zip (Nat.le_of_eq h)] at hkeys
  size := by
    have hlength := Entries.length_ofPairs (names.zip values)
    rwa [List.map_fst_zip (Nat.le_of_eq h)] at hlength

/-! ### Calls -/

namespace Call

/-- The call binds nothing: of the method, the arguments and the names something is not known, or the
first names that are known are not as many as the arguments. -/
inductive Unbound (call : Call) (s : NameSource) : Prop
  | callee (h : call.callee = none)
  | arguments (h : call.arguments = none)
  | names {callee : Callee} (h : call.callee = some callee)
      (hnone : ∀ leaf ∈ s.leaves, leaf.names? callee = none)
  | count {callee : Callee} {arguments : List Value} {names : List String}
      (h : call.callee = some callee) (harguments : call.arguments = some arguments)
      (hfirst : s.FirstKnown callee names) (hcount : names.length ≠ arguments.length)

variable {call : Call} {s : NameSource}

theorem bindings?_of_known {callee : Callee} {arguments : List Value} {names : List String}
    (hcallee : call.callee = some callee) (harguments : call.arguments = some arguments)
    (hfirst : s.FirstKnown callee names) :
    call.bindings? s =
      if names.length = arguments.length then some (names.zip arguments) else none := by
  simp [bindings?, hcallee, harguments, NameSource.names?_eq_some_iff.mpr hfirst]

theorem Unbound.bindings?_eq (h : call.Unbound s) : call.bindings? s = none := by
  cases h with
  | callee h => simp [bindings?, h]
  | arguments h => cases hcallee : call.callee <;> simp [bindings?, h, hcallee]
  | names h hnone =>
    have hnames := NameSource.names?_eq_none_iff.mpr hnone
    cases harguments : call.arguments <;> simp [bindings?, h, harguments, hnames]
  | count h harguments hfirst hcount =>
    rw [bindings?_of_known h harguments hfirst, if_neg hcount]

/-- Where nothing is missing and the numbers agree, something is bound. -/
theorem unbound_or_known (call : Call) (s : NameSource) : call.Unbound s ∨
    ∃ callee arguments names, call.callee = some callee ∧ call.arguments = some arguments ∧
      s.FirstKnown callee names ∧ names.length = arguments.length := by
  match hcallee : call.callee, harguments : call.arguments with
  | none, _ => exact .inl (.callee hcallee)
  | some _, none => exact .inl (.arguments harguments)
  | some callee, some arguments =>
    match hnames : s.names? callee with
    | none => exact .inl (.names hcallee (NameSource.names?_eq_none_iff.mp hnames))
    | some names =>
      have hfirst := NameSource.names?_eq_some_iff.mp hnames
      by_cases hcount : names.length = arguments.length
      · exact .inr ⟨callee, arguments, names, rfl, rfl, hfirst, hcount⟩
      · exact .inl (.count hcallee harguments hfirst hcount)

/-- **A call binds its arguments by position or not at all.**  Whatever the source of the names is

* its leaves are single sources, it knows the names that the first leaf with names knows, and chains in
  it may as well be replaced by their elements;
* if the method and the arguments are known and the first names found are as many as the arguments, then
  the context of the call binds the names to the arguments, place by place;
* in all other cases the context is empty;
* in no case does it have a registry. -/
theorem context_binds_by_position (call : Call) (s : NameSource) :
    (∀ leaf ∈ s.leaves, ∀ sources, leaf ≠ .chain sources) ∧
    (∀ callee names, s.names? callee = some names ↔ s.FirstKnown callee names) ∧
    (∀ t, s.Spliced t → t.leaves = s.leaves ∧ ∀ callee, t.names? callee = s.names? callee) ∧
    (∀ callee arguments names, call.callee = some callee → call.arguments = some arguments →
      s.FirstKnown callee names → names.length = arguments.length →
      (call.context s).BindsByPosition names arguments) ∧
    (call.Unbound s → call.context s = .empty) ∧
    (call.Unbound s ∨ ∃ callee arguments names, call.callee = some callee ∧
      call.arguments = some arguments ∧ s.FirstKnown callee names ∧
      names.length = arguments.length) ∧
    (call.context s).registry = none := by
  refine ⟨fun leaf => NameSource.ne_chain_of_mem_leaves, fun callee names => NameSource.names?_eq_some_iff,
    fun t ht => ⟨ht.leaves_eq, fun callee => ht.names?_eq⟩, ?_, fun h => ?_, unbound_or_known call s, ?_⟩
  -- with the names known and their number right, the bindings are the zip of both
  · intro callee arguments names hcallee harguments hfirst hcount
    rw [context, bindings?_of_known hcallee harguments hfirst, if_pos hcount]
    exact Context.ofPairs_zip_binds hcount
  · rw [context, h.bindings?_eq]
  · unfold context
    split <;> rfl

/-- Chains in chains, an early source without names, and a name for two of three parameters. -/
theorem context_binds_of_repeated_name :
    let known : NameSource := .table (ParameterTable.empty.register "shop" "pay" ["to", "sum", "to"])
    let other : NameSource := .function fun _ => some ["never", "asked"]
    let s : NameSource := .chain [.chain [.declared, .chain []], .chain [known, other]]
    let call : Call := ⟨some ⟨"shop", "pay", 3, none⟩, some [.string "ann", .integer 5, .string "bob"]⟩
    s.FirstKnown ⟨"shop", "pay", 3, none⟩ ["to", "sum", "to"] ∧
      (call.context s).binding? "to" = some (.string "bob") ∧
      (call.context s).bindings.keys = ["to", "sum"] := by
  intro known other s call
  have hfirst : s.FirstKnown ⟨"shop", "pay", 3, none⟩ ["to", "sum", "to"] := by
    refine ⟨[.declared], known, [other], rfl, fun leaf hleaf => ?_, by decide +kernel⟩
    rw [List.mem_singleton.mp hleaf]
    rfl
  obtain ⟨-, -, -, hbinds, -⟩ := context_binds_by_position call s
  have hbinds := hbinds _ _ _ rfl rfl hfirst rfl
  -- of the two parameters `to` the second wins, in the place of the first
  refine ⟨hfirst, (hbinds.binding_iff _ _).mpr ⟨2, rfl, rfl, fun j hj => ?_⟩, hbinds.order.trans rfl⟩
  rw [List.getElem?_eq_none hj]
  exact nofun

end Call
end ExprLang
