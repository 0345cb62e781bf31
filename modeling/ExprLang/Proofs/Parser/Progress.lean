import ExprLang.Proofs.Parser.Logic

/-!
# Reading makes progress

Every reader of the grammar that ends with a result has consumed tokens, or, where it reads the links
of a chain of which there may be none, has left the state as it was.  It closes the levels it opens,
however it ends, and comes to the end of the tokens only where they are those of the whole text.

So the recursion is bounded by the number of tokens: `fuelFor` is enough, and reading stops for no
other reason than an error of the text.

## Main definitions

* `Consumes src s s'` — some tokens were consumed between two states.
* `StopsWithin need fuel s` — the endings of a reader that stops for want of fuel only below `need`.
* `Progress src fuel` — what the seven readers do with some fuel.

## Main results

* `progress` — the readers make progress.
* `wholeExpression_ne_outOfFuel_of_le` — how much fuel is enough.
* `wholeExpression_ne_outOfFuel` — the fuel of `parse` never runs out.
-/

namespace ExprLang

/-- Some tokens were consumed between the states, at least one, and all levels opened are closed.  No
token is left only where the text was read to its end. -/
structure Consumes (src : Lexemes) (s s' : ParserState) : Prop where
  suffix : s'.ahead <:+ s.ahead
  shorter : s'.ahead.length < s.ahead.length
  depth : s'.depth = s.depth
  whole : s'.ahead = [] → src.failure = none

/-- Nothing was done between the states, or some tokens were consumed. -/
def Reaches (src : Lexemes) (s s' : ParserState) : Prop := s' = s ∨ Consumes src s s'

/-- As many levels are open as before, and fuel was the reason only if there was less than five units
for each token and `k` beside. -/
def StopsWithin (k fuel : Nat) (s : ParserState) (e : Stop) (s' : ParserState) : Prop :=
  s'.depth = s.depth ∧ (e = .outOfFuel → fuel < 5 * s.ahead.length + k)

section

variable {src : Lexemes} {s s₁ s₂ : ParserState}

theorem Consumes.trans (h₁ : Consumes src s s₁) (h₂ : Consumes src s₁ s₂) : Consumes src s s₂ where
  suffix := h₂.suffix.trans h₁.suffix
  shorter := Nat.lt_trans h₂.shorter h₁.shorter
  depth := h₂.depth.trans h₁.depth
  whole := h₂.whole

theorem Consumes.trans_reaches (h₁ : Consumes src s s₁) (h₂ : Reaches src s₁ s₂) :
    Consumes src s s₂ := by
  rcases h₂ with rfl | h₂
  · exact h₁
  · exact h₁.trans h₂

theorem Reaches.refl (s : ParserState) : Reaches src s s := .inl rfl

theorem Consumes.reaches (h : Consumes src s s₁) : Reaches src s s₁ := .inr h

theorem Reaches.depth (h : Reaches src s s₁) : s₁.depth = s.depth := by
  rcases h with rfl | h
  · rfl
  · exact h.depth

/-- Consuming is the same one level deeper. -/
theorem Consumes.opened (h : Consumes src s s₁) : Consumes src s.opened s₁.opened where
  suffix := h.suffix
  shorter := h.shorter
  depth := by simp [h.depth]
  whole := h.whole

theorem Consumes.closed (h : Consumes src s.opened s₁) : Consumes src s s₁.closed where
  suffix := h.suffix
  shorter := h.shorter
  depth := by simp [h.depth]
  whole := h.whole

/-! ### Putting readers together

The statements are about a reader that is run from `s₁` as a part of one that was run from `s`, and
that has one unit of fuel less than the whole. -/

variable {α : Type} {Q : α → ParserState → Prop} {k m fuel : Nat}

/-- An error of the text is no want of fuel. -/
theorem stopsWithin_error (e : ParseError) : StopsWithin k fuel s (.error e) s := ⟨rfl, by simp⟩

/-- A part that starts where the whole does. -/
theorem Ensures.first {p : Parser α}
    (hp : Ensures p (fun _ => Consumes src s) (StopsWithin k fuel s) s)
    (hQ : ∀ a s₁, Consumes src s s₁ → Q a s₁) (hk : k < m := by decide) :
    Ensures p Q (StopsWithin m (fuel + 1) s) s := by
  refine hp.mono hQ fun e s₁ h => ⟨h.1, fun he => ?_⟩
  have := h.2 he
  omega

theorem StopsWithin.of_part {e : Stop} (h : StopsWithin k fuel s₁ e s₂) (h₁ : Consumes src s s₁)
    (hk : k < m + 5) : StopsWithin m (fuel + 1) s e s₂ := by
  refine ⟨h.1.trans h₁.depth, fun he => ?_⟩
  have := h.2 he
  have := h₁.shorter
  omega

/-- A part behind some tokens that may find nothing to read. -/
theorem Ensures.last {p : Parser α}
    (hp : Ensures p (fun _ => Reaches src s₁) (StopsWithin k fuel s₁) s₁) (h₁ : Consumes src s s₁)
    (hQ : ∀ a s₂, Consumes src s s₂ → Q a s₂) (hk : k < m + 5 := by decide) :
    Ensures p Q (StopsWithin m (fuel + 1) s) s₁ :=
  hp.mono (fun a s₂ h₂ => hQ a s₂ (h₁.trans_reaches h₂)) fun _ _ h => h.of_part h₁ hk

/-- A part behind some tokens. -/
theorem Ensures.part {p : Parser α}
    (hp : Ensures p (fun _ => Consumes src s₁) (StopsWithin k fuel s₁) s₁) (h₁ : Consumes src s s₁)
    (hQ : ∀ a s₂, Consumes src s s₂ → Q a s₂) (hk : k < m + 5 := by decide) :
    Ensures p Q (StopsWithin m (fuel + 1) s) s₁ :=
  (hp.imp fun _ _ h => h.reaches).last h₁ hQ hk

/-- A part one level deeper. -/
theorem ensures_nested_part {p : Parser α} (h₁ : Reaches src s s₁)
    (hp : Ensures p (fun a s₂ => Q a s₂.closed) (StopsWithin m fuel s.opened) s₁.opened) :
    Ensures (nested src p) Q (StopsWithin m fuel s) s₁ := by
  refine ensures_nested (fun _ => hp.mono (fun _ _ h => h) fun e s₂ h => ⟨?_, h.2⟩)
    fun _ _ => ⟨h₁.depth, by simp⟩
  simp [h.1]

/-! ### Single tokens -/

/-- A token in view is consumed by `advance`. -/
theorem ensures_advance_consumes {t : Token} (ht : s.tokens.head? = some t) :
    Ensures (advance src) (fun _ => Consumes src s) (StopsWithin 0 fuel s) s := by
  cases hs : s.ahead with
  | nil => simp [ParserState.tokens, hs] at ht
  | cons l rest =>
    refine ensures_advance hs (fun h => ⟨?_, ?_, rfl, h⟩) fun e _ _ => stopsWithin_error e
    · exact hs ▸ List.suffix_cons l rest
    · simp [hs]

theorem ensures_unexpected_stops (expected : Expectation) :
    Ensures (unexpected expected) Q (StopsWithin k fuel s) s :=
  ensures_unexpected (fun _ => stopsWithin_error _) fun _ _ _ => stopsWithin_error _

theorem ensures_expect_consumes (t : Token) :
    Ensures (expect src t) (fun _ => Consumes src s) (StopsWithin 0 fuel s) s :=
  ensures_expect ensures_advance_consumes fun _ => ensures_unexpected_stops _

theorem ensures_memberName_consumes :
    Ensures (memberName src) (fun _ => Consumes src s) (StopsWithin 0 fuel s) s :=
  ensures_memberName (fun _ => ensures_advance_consumes) fun _ => ensures_unexpected_stops _

end

/-! ### The readers

The numbers order the readers by which of them calls which before it has consumed a token. -/

/-- What the readers do with some fuel. -/
structure Progress (src : Lexemes) (fuel : Nat) : Prop where
  expression : ∀ least s,
    Ensures (expression src fuel least) (fun _ => Consumes src s) (StopsWithin 3 fuel s) s
  operators : ∀ least left s,
    Ensures (operators src fuel least left) (fun _ => Reaches src s) (StopsWithin 1 fuel s) s
  unary : ∀ s, Ensures (unary src fuel) (fun _ => Consumes src s) (StopsWithin 2 fuel s) s
  primary : ∀ s, Ensures (primary src fuel) (fun _ => Consumes src s) (StopsWithin 1 fuel s) s
  elements : ∀ closer s,
    Ensures (elements src fuel closer) (fun _ => Consumes src s) (StopsWithin 5 fuel s) s
  moreElements : ∀ closer s,
    Ensures (moreElements src fuel closer) (fun _ => Consumes src s) (StopsWithin 4 fuel s) s
  members : ∀ base s,
    Ensures (members src fuel base) (fun _ => Reaches src s) (StopsWithin 1 fuel s) s

variable {src : Lexemes} {fuel : Nat}

theorem progress_zero : Progress src 0 where
  expression least s := by
    rw [expression]
    exact ⟨rfl, fun _ => by omega⟩
  operators least left s := by
    rw [operators]
    exact ⟨rfl, fun _ => by omega⟩
  unary s := by
    rw [unary]
    exact ⟨rfl, fun _ => by omega⟩
  primary s := by
    rw [primary]
    exact ⟨rfl, fun _ => by omega⟩
  elements closer s := by
    rw [elements]
    exact ⟨rfl, fun _ => by omega⟩
  moreElements closer s := by
    rw [moreElements]
    exact ⟨rfl, fun _ => by omega⟩
  members base s := by
    rw [members]
    exact ⟨rfl, fun _ => by omega⟩

theorem expression_progress (ih : Progress src fuel) (least : Precedence) (s : ParserState) :
    Ensures (expression src (fuel + 1) least) (fun _ => Consumes src s)
      (StopsWithin 3 (fuel + 1) s) s := by
  simp only [expression, Parser.plain]
  refine ensures_nested_part (.refl s) ?_
  rw [ensures_bind]
  refine (ih.unary _).first fun left s₁ h₁ => ?_
  exact (ih.operators least left s₁).last h₁ fun _ s₂ h₂ => h₂.closed

theorem operators_progress (ih : Progress src fuel) (least : Precedence) (left : Expr)
    (s : ParserState) :
    Ensures (operators src (fuel + 1) least left) (fun _ => Reaches src s)
      (StopsWithin 1 (fuel + 1) s) s := by
  simp only [operators, Parser.plain]
  rw [ensures_bind, ensures_peek]
  split
  case h_1 ht =>
    split
    · -- a conditional: both branches and the loop stand behind the question mark
      rw [ensures_bind]
      refine (ensures_advance_consumes ht).first fun _ s₁ h₁ => ?_
      refine ensures_nested_part h₁.reaches ?_
      rw [ensures_bind]
      refine (ih.expression _ _).part h₁.opened fun whenTrue s₂ h₂ => ?_
      rw [ensures_bind]
      refine (ensures_expect_consumes _).part h₂ fun _ s₃ h₃ => ?_
      rw [ensures_bind]
      refine (ih.expression _ _).part h₃ fun whenFalse s₄ h₄ => ?_
      exact (ih.operators _ _ _).last h₄ fun _ _ h => h.closed.reaches
    · exact .refl s
  case h_2 ht =>
    split
    · -- a fallback
      rw [ensures_bind]
      refine (ensures_advance_consumes ht).first fun _ s₁ h₁ => ?_
      refine ensures_nested_part h₁.reaches ?_
      rw [ensures_bind]
      refine (ih.expression _ _).part h₁.opened fun fallback s₂ h₂ => ?_
      exact (ih.operators _ _ _).last h₂ fun _ _ h => h.closed.reaches
    · exact .refl s
  case h_3 op ht =>
    split
    · -- a binary operator with its right operand
      rw [ensures_bind]
      refine (ensures_advance_consumes ht).first fun _ s₁ h₁ => ?_
      refine ensures_nested_part h₁.reaches ?_
      rw [ensures_bind]
      refine (ih.expression _ _).part h₁.opened fun right s₂ h₂ => ?_
      exact (ih.operators _ _ _).last h₂ fun _ _ h => h.closed.reaches
    · exact .refl s
  case h_4 => exact .refl s

theorem unary_progress (ih : Progress src fuel) (s : ParserState) :
    Ensures (unary src (fuel + 1)) (fun _ => Consumes src s) (StopsWithin 2 (fuel + 1) s) s := by
  simp only [unary, Parser.plain]
  rw [ensures_bind, ensures_peek]
  split
  case h_1 ht =>
    rw [ensures_bind]
    refine (ensures_advance_consumes ht).first fun _ s₁ h₁ => ?_
    rw [ensures_bind]
    refine ensures_nested_part h₁.reaches ?_
    exact (ih.unary _).part h₁.opened fun _ _ h => h.closed
  case h_2 ht =>
    rw [ensures_bind]
    refine (ensures_advance_consumes ht).first fun _ s₁ h₁ => ?_
    rw [ensures_bind]
    refine ensures_nested_part h₁.reaches ?_
    exact (ih.unary _).part h₁.opened fun _ _ h => h.closed
  case h_3 =>
    rw [ensures_bind]
    refine (ih.primary s).first fun base s₁ h₁ => ?_
    exact (ih.members base s₁).last h₁ fun _ _ h => h

theorem primary_progress (ih : Progress src fuel) (s : ParserState) :
    Ensures (primary src (fuel + 1)) (fun _ => Consumes src s) (StopsWithin 1 (fuel + 1) s) s := by
  simp only [primary, Parser.plain]
  rw [ensures_bind, ensures_ahead]
  split
  case h_1 => exact ensures_unexpected_stops _
  case h_2 l rest hs =>
    have ht : s.tokens.head? = some l.token := by simp [ParserState.tokens, hs]
    rw [ensures_bind]
    refine (ensures_advance_consumes ht).first fun _ s₁ h₁ => ?_
    -- the first token is consumed whatever it is, so everything else has fuel to spare
    split
    case h_1 => exact h₁
    case h_2 => exact ⟨h₁.depth, by simp⟩
    case h_3 =>
      rw [ensures_bind]
      refine (ih.expression _ _).part h₁ fun e s₂ h₂ => ?_
      rw [ensures_bind]
      exact (ensures_expect_consumes _).part h₂ fun _ _ h => h
    case h_4 =>
      rw [ensures_bind]
      exact (ih.elements _ _).part h₁ fun _ _ h => h
    case h_5 => exact ⟨h₁.depth, by simp⟩

theorem elements_progress (ih : Progress src fuel) (closer : Token) (s : ParserState) :
    Ensures (elements src (fuel + 1) closer) (fun _ => Consumes src s)
      (StopsWithin 5 (fuel + 1) s) s := by
  simp only [elements, Parser.plain]
  rw [ensures_bind, ensures_peek]
  split
  · next ht =>
    rw [ensures_bind]
    exact (ensures_advance_consumes ht).first fun _ _ h => h
  · exact (ih.moreElements closer s).first fun _ _ h => h

theorem moreElements_progress (ih : Progress src fuel) (closer : Token) (s : ParserState) :
    Ensures (moreElements src (fuel + 1) closer) (fun _ => Consumes src s)
      (StopsWithin 4 (fuel + 1) s) s := by
  simp only [moreElements, Parser.plain]
  rw [ensures_bind]
  refine (ih.expression _ s).first fun e s₁ h₁ => ?_
  rw [ensures_bind, ensures_peek]
  -- each element has consumed, so the next call has less to read
  split
  · next ht =>
    rw [ensures_bind]
    refine (ensures_advance_consumes ht).part h₁ fun _ s₂ h₂ => ?_
    rw [ensures_bind]
    exact (ih.moreElements closer s₂).part h₂ fun _ _ h => h
  · split
    · next ht =>
      rw [ensures_bind]
      exact (ensures_advance_consumes ht).part h₁ fun _ _ h => h
    · exact (ensures_unexpected_stops (k := 0) _).mono (fun _ _ h => h) fun _ _ h =>
        h.of_part h₁ (by decide)

theorem members_progress (ih : Progress src fuel) (base : Expr) (s : ParserState) :
    Ensures (members src (fuel + 1) base) (fun _ => Reaches src s)
      (StopsWithin 1 (fuel + 1) s) s := by
  simp only [members, Parser.plain]
  rw [ensures_bind, ensures_peek]
  split
  · next hdot =>
    obtain ⟨t, ht⟩ : ∃ t, s.tokens.head? = some t := by
      rcases hdot with h | h <;> exact ⟨_, h⟩
    -- a dot: a name, and arguments if a parenthesis follows
    rw [ensures_bind]
    refine (ensures_advance_consumes ht).first fun _ s₁ h₁ => ?_
    refine ensures_nested_part h₁.reaches ?_
    rw [ensures_bind]
    refine ensures_memberName_consumes.part h₁.opened fun name s₂ h₂ => ?_
    rw [ensures_bind, ensures_peek]
    split
    · next ht =>
      rw [ensures_bind]
      refine (ensures_advance_consumes ht).part h₂ fun _ s₃ h₃ => ?_
      rw [ensures_bind]
      refine (ih.elements _ _).part h₃ fun arguments s₄ h₄ => ?_
      exact (ih.members _ _).last h₄ fun _ _ h => h.closed.reaches
    · exact (ih.members _ _).last h₂ fun _ _ h => h.closed.reaches
  · split
    · next ht =>
      -- a bracket: an index
      rw [ensures_bind]
      refine (ensures_advance_consumes ht).first fun _ s₁ h₁ => ?_
      refine ensures_nested_part h₁.reaches ?_
      rw [ensures_bind]
      refine (ih.expression _ _).part h₁.opened fun position s₂ h₂ => ?_
      rw [ensures_bind]
      refine (ensures_expect_consumes _).part h₂ fun _ s₃ h₃ => ?_
      exact (ih.members _ _).last h₃ fun _ _ h => h.closed.reaches
    · exact .refl s

theorem progress (src : Lexemes) : ∀ fuel, Progress src fuel
  | 0 => progress_zero
  | fuel + 1 =>
    have ih := progress src fuel
    ⟨expression_progress ih, operators_progress ih, unary_progress ih, primary_progress ih,
      elements_progress ih, moreElements_progress ih, members_progress ih⟩

/-! ### The fuel of `parse` -/

/-- Five units for each token and three beside are enough. -/
theorem wholeExpression_ne_outOfFuel_of_le {src : Lexemes} {fuel : Nat}
    (hfuel : 5 * src.lexemes.length + 3 ≤ fuel) :
    Ensures (wholeExpression src fuel) (fun _ _ => True) (fun e _ => e ≠ .outOfFuel)
      ⟨src.lexemes, 0⟩ := by
  simp only [wholeExpression, Parser.plain]
  rw [ensures_bind]
  refine ((progress src _).expression _ _).mono (fun e s _ => ?_) fun e s h he => ?_
  · rw [ensures_bind, ensures_ahead]
    split
    · trivial
    · exact ensures_unexpected (fun _ => by simp) fun _ _ _ => by simp
  · exact absurd (h.2 he) (Nat.not_lt.mpr hfuel)

/-- The bound on the recursion is large enough for every text. -/
theorem wholeExpression_ne_outOfFuel (src : Lexemes) :
    Ensures (wholeExpression src (fuelFor src.lexemes.length)) (fun _ _ => True)
      (fun e _ => e ≠ .outOfFuel) ⟨src.lexemes, 0⟩ :=
  wholeExpression_ne_outOfFuel_of_le (by rw [fuelFor]; omega)

/-- The tokens of a source are read unless there is an error in place of the first of them. -/
theorem parseLexemes_of_read (hread : src.lexemes = [] → src.failure = none) :
    parseLexemes src =
      match (wholeExpression src (fuelFor src.lexemes.length) : Parser Expr) ⟨src.lexemes, 0⟩ with
      | .ok e _ => .ok e
      | .error (.error e) _ => .error e
      | .error .outOfFuel _ => .error (.tooDeeplyNested maxDepth src.stop) := by
  unfold parseLexemes
  split
  · rename_i e hnil hfailure
    rw [hread hnil] at hfailure
    cases hfailure
  · rfl

end ExprLang
