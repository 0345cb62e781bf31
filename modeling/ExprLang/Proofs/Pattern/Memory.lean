import ExprLang.Evaluation.Remembering

/-!
# The memory for patterns cannot be seen

What is remembered for a text is what reading the text again would give, and a text that cannot be read
is not remembered.  That is kept whatever is read, and when everything is forgotten it holds of what is
left, so it makes no difference to any answer whether a text was remembered.  An evaluation does
nothing to the memory but to read patterns, so evaluations cannot see each other through it either.

## Main definitions

* `ReadingCache.Faithful` — every text is remembered as what it is read as, and there are not too many.
* `Remembering.Recalls` — the same outcome as without a memory.

## Main results

* `ReadingCache.read?_of_faithful` — what one reading does.
* `ReadingCache.readAll_of_faithful` — what many do, one after the other.
* `Expr.evalIn_recalls` — evaluating only reads patterns.
* `PatternCache.memory_invisible` — **the memory is invisible and bounded**.

## References

`SPEC_FULL.md`, 10.1: patterns are cached; the reference's `full_match_regex`.
-/

namespace ExprLang

namespace ReadingCache

variable {α : Type} {read : String → Option α} {m : ReadingCache α} {text : String} {a : α}

/-- Every text is remembered as what it is read as, at most once, and there is room for all. -/
structure Faithful (read : String → Option α) (m : ReadingCache α) : Prop where
  read : ∀ entry ∈ m.entries, read entry.1 = some entry.2
  distinct : (Entries.keys m.entries).Nodup
  room : m.entries.length ≤ limit

theorem faithful_empty : Faithful read empty := ⟨nofun, List.nodup_nil, Nat.zero_le _⟩

/-! ### One reading -/

theorem length_insert_le (entries : Entries α) (text : String) (a : α) :
    (Entries.insert entries text a).length ≤ entries.length + 1 := by
  have hkeys := congrArg List.length (Entries.keys_insert entries text a)
  rw [Entries.keys, List.length_map] at hkeys
  rw [hkeys]
  split <;> simp [Entries.keys]

/-- What a text is read as can be put in with it, even if everything has to go for it. -/
theorem Faithful.insert (h : m.Faithful read) (ha : read text = some a) :
    (m.insert text a).Faithful read := by
  have hkept : ∀ kept : ReadingCache α, kept.Faithful read → kept.entries.length < limit →
      (⟨Entries.insert kept.entries text a⟩ : ReadingCache α).Faithful read := by
    intro kept hkept hlt
    refine ⟨fun entry hentry => ?_, Entries.nodup_insert hkept.distinct text a,
      Nat.le_trans (length_insert_le _ _ _) hlt⟩
    rcases Entries.mem_or_eq_of_mem_insert hentry with hold | rfl
    · exact hkept.read entry hold
    · exact ha
  rw [ReadingCache.insert]
  split
  · exact hkept empty faithful_empty (Nat.zero_lt_succ _)
  · next hroom => exact hkept m h (Nat.lt_of_not_le hroom)

/-- Reading with a memory gives what reading anew gives, and keeps the memory faithful. -/
theorem read?_of_faithful (h : m.Faithful read) (text : String) :
    (m.read? read text).1 = read text ∧ (m.read? read text).2.Faithful read := by
  unfold read?
  split
  · next a ha => exact ⟨(h.read _ (Entries.mem_of_get? ha)).symm, h⟩
  · split
    · next a ha => exact ⟨ha.symm, h.insert ha⟩
    · next ha => exact ⟨ha.symm, h⟩

/-- What was read last is remembered, if it could be read. -/
theorem get?_entries_read? (m : ReadingCache α) (text : String) :
    (m.read? read text).2.entries.get? text = (m.read? read text).1 := by
  unfold read?
  split
  · next a ha => exact ha
  · next ha =>
    split
    · exact (Entries.get?_insert _ text _ text).trans (if_pos rfl)
    · exact ha

/-! ### Many readings -/

/-- Each reading gives what reading anew gives, whatever was read before. -/
theorem readAll_of_faithful (h : m.Faithful read) (texts : List String) :
    (m.readAll read texts).1 = texts.map read ∧ (m.readAll read texts).2.Faithful read := by
  induction texts generalizing m with
  | nil => exact ⟨rfl, h⟩
  | cons text texts ih =>
    obtain ⟨ha, hm⟩ := read?_of_faithful h text
    obtain ⟨has, hms⟩ := ih hm
    refine ⟨?_, hms⟩
    rw [List.map_cons, ← ha, ← has]
    rfl

theorem readAll_append (m : ReadingCache α) (texts texts' : List String) :
    (m.readAll read (texts ++ texts')).2 = ((m.readAll read texts).2.readAll read texts').2 := by
  induction texts generalizing m with
  | nil => rfl
  | cons text texts ih => exact ih (m.read? read text).2

/-- What cannot be read is not remembered. -/
theorem Faithful.not_mem (h : m.Faithful read) (htext : read text = none) :
    text ∉ Entries.keys m.entries := by
  intro hmem
  obtain ⟨a, ha⟩ := Entries.mem_keys_iff.mp hmem
  rw [h.read _ (Entries.mem_of_get? ha)] at htext
  cases htext

end ReadingCache

/-- Every pattern is that of its text, and there are not too many. -/
def PatternCache.Faithful (m : PatternCache) : Prop := ReadingCache.Faithful Pattern.readAnew? m

theorem PatternCache.patterns_append (m : PatternCache) (texts texts' : List String) :
    (m.patterns (texts ++ texts')).2 = ((m.patterns texts).2.patterns texts').2 :=
  ReadingCache.readAll_append m texts texts'

/-! ### Evaluations -/

/-- The outcome is the one that there is without a memory, and what was done to the memory is that some
patterns were read. -/
def Remembering.Recalls {α : Type} (x : Remembering α) (y : Outcome α) : Prop :=
  ∀ m : PatternCache, m.Faithful → ∃ texts, x m = y.withMemory (m.patterns texts).2

section

variable {α β : Type}

theorem Outcome.recalls (y : Outcome α) : y.withMemory.Recalls y := fun _ _ => ⟨[], rfl⟩

theorem Remembering.recalls_pure (a : α) : (pure a : Remembering α).Recalls (pure a) :=
  fun _ _ => ⟨[], rfl⟩

theorem Remembering.Recalls.bind {x : Remembering α} {y : Outcome α} {f : α → Remembering β}
    {g : α → Outcome β} (hx : x.Recalls y) (hf : ∀ a, (f a).Recalls (g a)) :
    (x >>= f).Recalls (y >>= g) := by
  intro m hm
  obtain ⟨texts, htexts⟩ := hx m hm
  cases y with
  | error e =>
    refine ⟨texts, ?_⟩
    simp only [Bind.bind, EStateM.bind, htexts]
    rfl
  | ok a =>
    obtain ⟨texts', htexts'⟩ := hf a _ (ReadingCache.readAll_of_faithful hm texts).2
    refine ⟨texts ++ texts', ?_⟩
    rw [PatternCache.patterns_append]
    simp only [Bind.bind, EStateM.bind, htexts]
    exact htexts'

theorem Remembering.Recalls.answer {x : Remembering α} {y : Outcome α} (h : x.Recalls y)
    {m : PatternCache} (hm : m.Faithful) : ∃ texts, x.answer m = (y, (m.patterns texts).2) := by
  obtain ⟨texts, htexts⟩ := h m hm
  refine ⟨texts, ?_⟩
  rw [Remembering.answer, htexts]
  cases y <;> rfl

end

/-- Matching reads its pattern, if it is given one. -/
theorem Remembering.fullMatch?_recalls (pattern text : String) :
    Remembering.Recalls (Evaluator.fullMatch? pattern text) (.ok (Pattern.fullMatch? pattern text)) := by
  intro m hm
  refine ⟨[pattern], ?_⟩
  have hread : (m.pattern? pattern).1 = Pattern.readAnew? pattern :=
    (ReadingCache.read?_of_faithful hm pattern).1
  have hmemory : (m.patterns [pattern]).2 = (m.pattern? pattern).2 := rfl
  show EStateM.Result.ok (m.fullMatch? pattern text).1 (m.fullMatch? pattern text).2 = _
  rw [hmemory, Pattern.fullMatch?, ← Pattern.readAnew?, ← hread]
  rfl

theorem Value.binaryIn_recalls (op : BinaryOperator) (a b : Value) :
    (a.binaryIn op b : Remembering Value).Recalls (a.binaryIn op b) := by
  by_cases hop : op = .fullMatch
  · subst hop
    refine (Outcome.recalls (a.matchOperands b)).bind fun operands => ?_
    exact (Remembering.fullMatch?_recalls operands.1 operands.2).bind fun _ => Outcome.recalls _
  · have hoperation : ∀ {m : Type → Type} [Monad m] [Evaluator m],
        (a.binaryIn op b : m Value) = ofOutcome (a.binary op b) := by
      intro m _ _
      cases op <;> first | rfl | contradiction
    rw [hoperation, hoperation]
    exact Outcome.recalls _

mutual

/-- Evaluating does nothing to the memory but to read patterns, and comes to what it does without. -/
theorem Expr.evalIn_recalls (c : Context) :
    ∀ e : Expr, (e.evalIn c : Remembering Value).Recalls (e.eval c)
  | .literal l => Remembering.recalls_pure l.value
  | .identifier _ => Outcome.recalls _
  | .binding _ => Outcome.recalls _
  | .component _ => Outcome.recalls _
  | .property base _ _ => by
    rw [Expr.eval, Expr.evalIn, Expr.evalIn]
    refine (base.evalIn_recalls c).bind fun v => ?_
    split
    · exact Remembering.recalls_pure _
    · exact Outcome.recalls _
  | .call base method arguments _ => by
    rw [Expr.eval, Expr.evalIn, Expr.evalIn]
    refine (base.evalIn_recalls c).bind fun receiver => ?_
    split
    · split
      · exact Remembering.recalls_pure _
      · exact Outcome.recalls (.error (.nullReference (.call method)))
    · exact (evalAllIn_recalls c arguments).bind fun _ => Outcome.recalls _
  | .index base position => by
    rw [Expr.eval, Expr.evalIn, Expr.evalIn]
    refine (base.evalIn_recalls c).bind fun _ => ?_
    exact (position.evalIn_recalls c).bind fun _ => Outcome.recalls _
  | .binary op left right => by
    rw [Expr.eval, Expr.evalIn, Expr.evalIn]
    refine (left.evalIn_recalls c).bind fun a => ?_
    split
    · -- a connective looks at its right side only where the left one leaves it open
      refine (Outcome.recalls _).bind fun b => ?_
      split
      · exact Remembering.recalls_pure _
      · refine (right.evalIn_recalls c).bind fun v => (Outcome.recalls _).bind fun b => ?_
        exact Remembering.recalls_pure _
    · exact (right.evalIn_recalls c).bind fun b => a.binaryIn_recalls op b
  | .unary _ operand => by
    rw [Expr.eval, Expr.evalIn, Expr.evalIn]
    exact (operand.evalIn_recalls c).bind fun _ => Outcome.recalls _
  | .conditional condition whenTrue whenFalse => by
    rw [Expr.eval, Expr.evalIn, Expr.evalIn]
    refine (condition.evalIn_recalls c).bind fun _ => (Outcome.recalls _).bind fun b => ?_
    cases b with
    | true => exact whenTrue.evalIn_recalls c
    | false => exact whenFalse.evalIn_recalls c
  | .elvis value fallback => by
    rw [Expr.eval, Expr.evalIn, Expr.evalIn]
    refine (value.evalIn_recalls c).bind fun v => ?_
    split
    · exact fallback.evalIn_recalls c
    · exact Remembering.recalls_pure _
  | .list items => by
    rw [Expr.eval, Expr.evalIn, Expr.evalIn]
    exact (evalAllIn_recalls c items).bind fun vs => Remembering.recalls_pure _

theorem evalAllIn_recalls (c : Context) :
    ∀ es : List Expr, (evalAllIn c es : Remembering _).Recalls (evalAll c es)
  | [] => Remembering.recalls_pure []
  | e :: es => by
    rw [evalAll, evalAllIn, evalAllIn]
    refine (e.evalIn_recalls c).bind fun v => ?_
    exact (evalAllIn_recalls c es).bind fun vs => Remembering.recalls_pure _

end

namespace PatternCache

/-- Many evaluations are answered as each of them is without a memory, and have only read patterns. -/
theorem evaluations_of_faithful {m : PatternCache} (h : m.Faithful) (es : List (Context × Expr)) :
    (m.evaluations es).1 = es.map (fun e => e.2.eval e.1) ∧
      ∃ texts, (m.evaluations es).2 = (m.patterns texts).2 := by
  induction es generalizing m with
  | nil => exact ⟨rfl, [], rfl⟩
  | cons e es ih =>
    obtain ⟨c, e⟩ := e
    obtain ⟨texts, hanswer⟩ := (e.evalIn_recalls c).answer h
    obtain ⟨hlater, texts', htexts'⟩ := ih (ReadingCache.readAll_of_faithful h texts).2
    rw [evaluations, hanswer]
    refine ⟨?_, texts ++ texts', ?_⟩
    · rw [List.map_cons, ← hlater]
      rfl
    · rw [patterns_append]
      exact htexts'

/-- **The memory for patterns is invisible and bounded.**  Take any way to read texts, and read any texts
in whatever order, from a memory that was empty: each reading gives what reading the text anew gives,
every text is remembered as what it is read as, what was read last is remembered if it could be read, what
cannot be read is not remembered, and there are never more than 256 texts.  It is so for patterns.
Evaluations that share the memory for patterns do nothing to it but to read patterns, and each of them
comes to what it comes to without a memory. -/
theorem memory_invisible :
    (∀ (α : Type) (read : String → Option α) (texts : List String),
      let c := (ReadingCache.empty.readAll read texts).2
      (ReadingCache.empty.readAll read texts).1 = texts.map read ∧
      (∀ entry ∈ c.entries, read entry.1 = some entry.2) ∧
      (∀ text, (ReadingCache.empty.readAll read (texts ++ [text])).2.entries.get? text = read text) ∧
      (∀ text, read text = none → text ∉ Entries.keys c.entries) ∧
      (Entries.keys c.entries).Nodup ∧
      c.entries.length ≤ 256) ∧
    (∀ (m : PatternCache) (texts : List String), m.patterns texts = m.readAll Pattern.readAnew? texts) ∧
    ∀ es : List (Context × Expr),
      (evaluations .empty es).1 = es.map (fun e => e.2.eval e.1) ∧
      ∃ texts, (evaluations .empty es).2 = (patterns .empty texts).2 := by
  refine ⟨fun α read texts => ?_, fun _ _ => rfl, evaluations_of_faithful ReadingCache.faithful_empty⟩
  have hempty : ReadingCache.empty.Faithful read := ReadingCache.faithful_empty
  obtain ⟨hanswers, hfaithful⟩ := ReadingCache.readAll_of_faithful hempty texts
  refine ⟨hanswers, hfaithful.read, fun text => ?_, fun _ => hfaithful.not_mem, hfaithful.distinct,
    hfaithful.room⟩
  -- the last text is kept by the step that reads it
  rw [ReadingCache.readAll_append, ← (ReadingCache.read?_of_faithful hfaithful text).1]
  exact ReadingCache.get?_entries_read? _ text

/-- A text that is no pattern is read each time, and only the other one is remembered. -/
example : Entries.keys (patterns .empty ["(a", "a+", "(a", "a+"]).2.entries = ["a+"] := by
  decide +kernel

end PatternCache

end ExprLang
