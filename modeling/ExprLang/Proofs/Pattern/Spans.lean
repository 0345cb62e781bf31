import ExprLang.Pattern.Build

/-!
# The stretches that a pattern matches

Which stretches of a text a pattern matches is told here along its syntax: a sequence matches what its
parts match one after the other, a repetition what its part matches over and over.  The positions
that `ends` computes are the ends of these stretches, all of them and no others.

## Main definitions

* `Steps` — a number of steps of a relation.
* `Pattern.Spans` — a pattern matches the stretch between two positions of a text.
* `Pattern.Covers` — a pattern matches a text from its first to its last character.

## Main results

* `Pattern.mem_ends` — **matching finds the ends of the stretches that a pattern matches.**
* `Pattern.spans_concat` — the reduced form of a sequence matches what the sequence does.
* `Pattern.occursIn_anchored` — between the anchors of a text a pattern occurs if it covers the text.
-/

namespace ExprLang

/-! ### Steps of a relation -/

/-- As many steps of a relation as given, one after the other. -/
def Steps (r : Nat → Nat → Prop) : Nat → Nat → Nat → Prop
  | 0, i, j => i = j
  | n + 1, i, k => ∃ j, r i j ∧ Steps r n j k

section

variable {r : Nat → Nat → Prop} {i j k m n : Nat}

theorem steps_add : Steps r (m + n) i k ↔ ∃ j, Steps r m i j ∧ Steps r n j k := by
  induction m generalizing i with
  | zero => simp [Steps]
  | succ m ih =>
    rw [Nat.succ_add]
    constructor
    · rintro ⟨i', hr, h⟩
      obtain ⟨j, hm, hn⟩ := ih.mp h
      exact ⟨j, ⟨i', hr, hm⟩, hn⟩
    · rintro ⟨j, ⟨i', hr, hm⟩, hn⟩
      exact ⟨i', hr, ih.mpr ⟨j, hm, hn⟩⟩

/-- Steps that go forwards, but not over a bound, do so together. -/
theorem Steps.bounds {bound : Nat} (hr : ∀ {i j}, r i j → i ≤ j ∧ j ≤ max i bound) :
    ∀ {n i}, Steps r n i j → i ≤ j ∧ j ≤ max i bound
  | 0, i, h => by
    subst h
    exact ⟨Nat.le_refl _, Nat.le_max_left _ _⟩
  | n + 1, i, ⟨i', hstep, h⟩ => by
    have hfirst := hr hstep
    have hrest := Steps.bounds hr h
    omega

/-- If steps go forwards, those that stay where they are can be left out. -/
theorem Steps.shorten (hr : ∀ {i j}, r i j → i ≤ j) : ∀ {n i}, Steps r n i j →
    i ≤ j ∧ ∃ m ≤ j - i, Steps r m i j
  | 0, i, h => by
    subst h
    exact ⟨Nat.le_refl _, 0, Nat.zero_le _, rfl⟩
  | n + 1, i, ⟨i', hstep, h⟩ => by
    obtain ⟨hle, m, hm, hsteps⟩ := Steps.shorten hr h
    have hle' := hr hstep
    refine ⟨Nat.le_trans hle' hle, ?_⟩
    rcases Nat.eq_or_lt_of_le hle' with rfl | hlt
    · exact ⟨m, hm, hsteps⟩
    · exact ⟨m + 1, by omega, i', hstep, hsteps⟩

/-- No steps lead out of what no step leads out of. -/
theorem Steps.mem_of_closed {seen : List Nat} (hclosed : ∀ i ∈ seen, ∀ j, r i j → j ∈ seen) :
    ∀ {n i}, Steps r n i j → i ∈ seen → j ∈ seen
  | 0, _, h, hi => by
    subst h
    exact hi
  | _ + 1, i, ⟨i', hstep, h⟩, hi => h.mem_of_closed hclosed (hclosed i hi i' hstep)

end

namespace Pattern

/-! ### Stretches of a text -/

/-- The pattern matches the stretch of a text from position `i` to position `j`.  A bound of a
repetition that is below its least number counts as that number. -/
def Spans (text : Array Char) : Pattern → Nat → Nat → Prop
  | empty, i, j => i = j
  | literal cs, i, j => cs <+: text.toList.drop i ∧ i + cs.length = j
  | oneOf set, i, j => (∃ c, text[i]? = some c ∧ set.contains c) ∧ i + 1 = j
  | anchor a, i, j => a.holds text i ∧ i = j
  | sequence p q, i, k => ∃ j, Spans text p i j ∧ Spans text q j k
  | either p q, i, j => Spans text p i j ∨ Spans text q i j
  | repeated p least most _, i, j =>
    ∃ n, least ≤ n ∧ (∀ m ∈ most, n ≤ max least m) ∧ Steps (Spans text p) n i j
  | group _ p, i, j => Spans text p i j

attribute [local simp] ends Spans

/-- The pattern matches a text from its first to its last character. -/
def Covers (p : Pattern) (text : String) : Prop := p.Spans text.toList.toArray 0 text.toList.length

variable {text : Array Char} {i j : Nat} {s : List Nat}

/-- A stretch lies within the text. -/
theorem Spans.bounds : ∀ {p : Pattern} {i j}, p.Spans text i j → i ≤ j ∧ j ≤ max i text.size
  | empty, i, j, h => by
    obtain rfl : i = j := h
    exact ⟨Nat.le_refl _, Nat.le_max_left _ _⟩
  | literal cs, i, j, ⟨hcs, hj⟩ => by
    have hle := hcs.length_le
    have hsize : text.toList.length = text.size := Array.length_toList
    rw [List.length_drop] at hle
    omega
  | oneOf set, i, j, ⟨⟨c, hc, _⟩, hj⟩ => by
    have hlt := (Array.getElem?_eq_some_iff.mp hc).1
    omega
  | anchor a, i, j, ⟨_, hj⟩ => by
    subst hj
    exact ⟨Nat.le_refl _, Nat.le_max_left _ _⟩
  | sequence p q, i, k, ⟨j, hp, hq⟩ => by
    have hfirst := hp.bounds
    have hsecond := hq.bounds
    omega
  | either p q, i, j, h => h.elim Spans.bounds Spans.bounds
  | repeated p least most lazy, i, j, ⟨n, _, _, h⟩ => h.bounds Spans.bounds
  | group number p, i, j, h => Spans.bounds (p := p) h

/-! ### Where patterns end -/

theorem mem_unite {s t : List Nat} : j ∈ unite s t ↔ j ∈ s ∨ j ∈ t := by
  simp only [unite, List.mem_append, List.mem_filter, Bool.not_eq_true', List.contains_eq_mem,
    decide_eq_false_iff_not]
  grind

section

variable {step : List Nat → List Nat} {r : Nat → Nat → Prop}
  (hstep : ∀ {s j}, j ∈ step s ↔ ∃ i ∈ s, r i j)
include hstep

theorem mem_iterate : ∀ {n s}, j ∈ iterate step n s ↔ ∃ i ∈ s, Steps r n i j
  | 0, s => by simp [iterate, Steps]
  | n + 1, [] => by simp [iterate]
  | n + 1, i :: s => by
    rw [iterate, List.isEmpty_cons, if_neg Bool.false_ne_true, mem_iterate]
    constructor
    · rintro ⟨i', hi', h⟩
      obtain ⟨i, hi, hr⟩ := hstep.mp hi'
      exact ⟨i, hi, i', hr, h⟩
    · rintro ⟨i, hi, i', hr, h⟩
      exact ⟨i', hstep.mpr ⟨i, hi, hr⟩, h⟩

/-- From what has been seen a number of steps is made, though only the fresh positions are followed:
those that others lead to have been seen already. -/
theorem mem_reach : ∀ {n seen fresh}, fresh ⊆ seen →
    (∀ i ∈ seen, i ∉ fresh → ∀ j, r i j → j ∈ seen) →
    (j ∈ reach step n seen fresh ↔ ∃ i ∈ seen, ∃ m ≤ n, Steps r m i j)
  | 0, seen, fresh, _, _ => by simp [reach, Steps]
  | n + 1, seen, fresh, hsub, hclosed => by
    -- the new ones are a step away from the fresh ones, and have not been seen
    let new := (step fresh).filter fun i => !seen.contains i
    have mem_new : ∀ {i}, i ∈ new ↔ (∃ i₀ ∈ fresh, r i₀ i) ∧ i ∉ seen := by
      intro i
      simp [new, List.mem_filter, hstep]
    have hstays : ∀ i ∈ seen, ∀ j, r i j → j ∈ seen ++ new := by
      intro i hi j hr
      rw [List.mem_append]
      by_cases hj : j ∈ seen
      · exact .inl hj
      · by_cases hfresh : i ∈ fresh
        · exact .inr (mem_new.mpr ⟨⟨i, hfresh, hr⟩, hj⟩)
        · exact .inl (hclosed i hi hfresh j hr)
    change j ∈ (if new.isEmpty then seen else reach step n (seen ++ new) new) ↔ _
    split
    · -- without new ones all that was seen is closed under steps
      next hempty =>
      rw [List.isEmpty_iff] at hempty
      rw [hempty, List.append_nil] at hstays
      exact ⟨fun h => ⟨j, h, 0, Nat.zero_le _, rfl⟩,
        fun ⟨i, hi, m, _, h⟩ => h.mem_of_closed hstays hi⟩
    · have hrest : ∀ i ∈ seen ++ new, i ∉ new → ∀ j, r i j → j ∈ seen ++ new := by
        intro i hi hi'
        exact hstays i ((List.mem_append.mp hi).resolve_right hi')
      rw [mem_reach (List.subset_append_right _ _) hrest]
      constructor
      · rintro ⟨i, hi, m, hm, h⟩
        rcases List.mem_append.mp hi with hi | hi
        · exact ⟨i, hi, m, Nat.le_trans hm (Nat.le_succ n), h⟩
        · obtain ⟨⟨i₀, hi₀, hr⟩, -⟩ := mem_new.mp hi
          exact ⟨i₀, hsub hi₀, m + 1, Nat.succ_le_succ hm, i, hr, h⟩
      · rintro ⟨i, hi, m, hm, h⟩
        cases m with
        | zero => exact ⟨i, List.mem_append_left _ hi, 0, Nat.zero_le _, h⟩
        | succ m =>
          obtain ⟨i', hr, h⟩ := h
          exact ⟨i', hstays i hi i' hr, m, Nat.le_of_succ_le_succ hm, h⟩

end

theorem cons_prefix_drop {c : Char} {cs l : List Char} {i : Nat} :
    c :: cs <+: l.drop i ↔ l[i]? = some c ∧ cs <+: l.drop (i + 1) := by
  rcases Nat.lt_or_ge i l.length with hi | hi
  · rw [List.drop_eq_getElem_cons hi, List.cons_prefix_cons, List.getElem?_eq_getElem hi,
      Option.some_inj, eq_comm]
  · simp [List.drop_eq_nil_of_le hi, hi]

theorem mem_ends_literal {cs : List Char} : ∀ {s : List Nat},
    j ∈ (literal cs).ends text s ↔ ∃ i ∈ s, (literal cs).Spans text i j := by
  simp only [ends, Spans]
  induction cs with
  | nil => simp
  | cons c cs ih =>
    intro s
    simp only [List.foldl_cons, ih, List.mem_map, List.mem_filter, cons_prefix_drop,
      Array.getElem?_toList, List.length_cons, beq_iff_eq]
    constructor
    · rintro ⟨_, ⟨i, ⟨hi, hc⟩, rfl⟩, hcs, rfl⟩
      exact ⟨i, hi, ⟨hc, hcs⟩, by omega⟩
    · rintro ⟨i, hi, ⟨hc, hcs⟩, rfl⟩
      exact ⟨i + 1, ⟨i, ⟨hi, hc⟩, rfl⟩, hcs, by omega⟩

theorem mem_ends_repeated {p : Pattern} {least : Nat} {most : Option Nat} {lazy : Bool}
    (hp : ∀ {s j}, j ∈ p.ends text s ↔ ∃ i ∈ s, p.Spans text i j) :
    j ∈ (repeated p least most lazy).ends text s ↔
      ∃ i ∈ s, (repeated p least most lazy).Spans text i j := by
  rw [ends, mem_reach hp (List.Subset.refl _) fun i hi hi' => absurd hi hi']
  simp only [mem_iterate hp, Spans]
  constructor
  · rintro ⟨i', ⟨i, hi, hleast⟩, m, hm, hsteps⟩
    have hmost : ∀ b ∈ most, least + m ≤ max least b := by
      intro b hb
      rw [Option.mem_def.mp hb] at hm
      change m ≤ b - least at hm
      omega
    exact ⟨i, hi, least + m, Nat.le_add_right _ _, hmost, steps_add.mpr ⟨i', hleast, hsteps⟩⟩
  · rintro ⟨i, hi, n, hleast, hmost, hsteps⟩
    obtain ⟨m, rfl⟩ := Nat.exists_eq_add_of_le hleast
    obtain ⟨i', hfirst, hrest⟩ := steps_add.mp hsteps
    refine ⟨i', ⟨i, hi, hfirst⟩, ?_⟩
    cases most with
    | some b =>
      have hm := hmost b rfl
      refine ⟨m, ?_, hrest⟩
      change m ≤ b - least
      omega
    | none =>
      -- without a bound no more steps are needed than there are characters
      obtain ⟨-, m', hm', hshort⟩ := hrest.shorten fun h => h.bounds.1
      have hbounds := hrest.bounds Spans.bounds
      refine ⟨m', ?_, hshort⟩
      change m' ≤ text.size
      omega

/-- **Matching finds the ends of the stretches that a pattern matches**, if they start at one of the
given positions, and nothing else. -/
theorem mem_ends : ∀ {p : Pattern} {s : List Nat} {j : Nat},
    j ∈ p.ends text s ↔ ∃ i ∈ s, p.Spans text i j
  | empty, s, j => by simp
  | literal cs, s, j => mem_ends_literal
  | oneOf set, s, j => by
    simp only [ends, Spans, List.mem_map, List.mem_filter, Option.any_eq_true]
    grind
  | anchor a, s, j => by
    simp only [ends, Spans, List.mem_filter]
    grind
  | sequence p q, s, j => by
    simp only [ends, Spans, mem_ends]
    grind
  | either p q, s, j => by
    simp only [ends, Spans, mem_unite, mem_ends]
    grind
  | repeated p least most lazy, s, j => mem_ends_repeated mem_ends
  | group _ p, s, j => by
    rw [ends, mem_ends]
    rfl

theorem occursIn_iff (p : Pattern) (text : String) :
    p.occursIn text = true ↔
      ∃ i ≤ text.toList.length, ∃ j, p.Spans text.toList.toArray i j := by
  simp only [occursIn, Bool.not_eq_true', List.isEmpty_eq_false_iff_exists_mem, mem_ends,
    List.size_toArray, List.mem_range, Nat.lt_succ_iff]
  grind

/-! ### Sequences -/

/-- The patterns match stretches that lie one behind the other. -/
def SpansAll (text : Array Char) : List Pattern → Nat → Nat → Prop
  | [], i, j => i = j
  | p :: ps, i, k => ∃ j, p.Spans text i j ∧ SpansAll text ps j k

variable {p : Pattern} {ps qs : List Pattern}

theorem spansAll_append : SpansAll text (ps ++ qs) i j ↔
    ∃ k, SpansAll text ps i k ∧ SpansAll text qs k j := by
  induction ps generalizing i with
  | nil => simp [SpansAll]
  | cons p ps ih =>
    simp only [List.cons_append, SpansAll, ih]
    grind

theorem spansAll_parts : ∀ {p : Pattern} {i}, SpansAll text p.parts i j ↔ p.Spans text i j
  | sequence p q, i => by simp only [parts, SpansAll, spansAll_parts, Spans]
  | empty, i | literal _, i | oneOf _, i | anchor _, i | either _ _, i | repeated _ _ _ _, i
  | group _ _, i => by simp [parts, SpansAll]

theorem spans_literal_append {cs ds : List Char} : (literal (cs ++ ds)).Spans text i j ↔
    ∃ k, (literal cs).Spans text i k ∧ (literal ds).Spans text k j := by
  induction cs generalizing i with
  | nil => simp
  | cons c cs ih =>
    simp only [Spans, List.cons_append, cons_prefix_drop, List.length_cons] at ih ⊢
    have := @ih (i + 1)
    grind

theorem spansAll_prepend : SpansAll text (prepend p ps) i j ↔ SpansAll text (p :: ps) i j := by
  unfold prepend
  split
  · simp [SpansAll]
  · simp only [SpansAll, spans_literal_append]
    grind
  · rfl

theorem spans_chain : ∀ (ps : List Pattern) {i}, (chain ps).Spans text i j ↔ SpansAll text ps i j
  | [], i => by rfl
  | [p], i => by simp [chain, SpansAll]
  | p :: q :: ps, i => by
    simp only [chain, Spans, spans_chain (q :: ps), SpansAll]

/-- The reduced form of a sequence matches what its parts match one after the other. -/
theorem spans_concat : (concat ps).Spans text i j ↔ SpansAll text ps i j := by
  have hfold : ∀ {ps : List Pattern} {i},
      SpansAll text (ps.foldr prepend []) i j ↔ SpansAll text ps i j := by
    intro ps
    induction ps with
    | nil => exact Iff.rfl
    | cons p ps ih =>
      intro i
      rw [List.foldr_cons, spansAll_prepend]
      simp only [SpansAll, ih]
  rw [concat, spans_chain, hfold]
  induction ps generalizing i with
  | nil => exact Iff.rfl
  | cons p ps ih =>
    rw [List.flatMap_cons, spansAll_append]
    simp only [ih, spansAll_parts, SpansAll]

theorem holds_textStart (h : i ≤ text.size) : Anchor.textStart.holds text i = true ↔ i = 0 := by
  simp only [Anchor.holds, Anchor.holdsBetween]
  split
  · simpa
  · simp
    omega

theorem holds_textEnd : Anchor.textEnd.holds text i = true ↔ text.size ≤ i := by
  simp [Anchor.holds, Anchor.holdsBetween]

/-- Between the anchors of a text a pattern occurs if it covers the text. -/
theorem occursIn_anchored (p : Pattern) (text : String) :
    (concat [.anchor .textStart, p, .anchor .textEnd]).occursIn text = true ↔ p.Covers text := by
  simp only [occursIn_iff, spans_concat, SpansAll, Covers]
  constructor
  · rintro ⟨i, hi, j, _, ⟨hstart, rfl⟩, k, hp, _, ⟨hend, rfl⟩, rfl⟩
    obtain rfl := (holds_textStart hi).mp hstart
    have hle := holds_textEnd.mp hend
    have hbounds := hp.bounds
    rw [List.size_toArray] at hle hbounds
    obtain rfl : k = text.toList.length := by omega
    exact hp
  · intro hp
    refine ⟨0, Nat.zero_le _, _, 0, ⟨(holds_textStart (Nat.zero_le _)).mpr rfl, rfl⟩, _, hp, _,
      ⟨holds_textEnd.mpr ?_, rfl⟩, rfl⟩
    exact Nat.le_refl _

end Pattern
end ExprLang
