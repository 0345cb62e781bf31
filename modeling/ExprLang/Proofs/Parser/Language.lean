import ExprLang.Proofs.Parser.Completeness
import ExprLang.Proofs.Parser.Progress
import ExprLang.Proofs.Parser.Soundness
import Mathlib.Data.List.TakeWhile

/-!
# The language that is read

A text is read as a tree exactly if the grammar derives the tree from the tokens of the text, unless
the tree is too deep to be read at all.

## Main results

* `derives_of_parseLexemes` — the tokens of which `parseLexemes` makes a tree are a phrase.
* `parseLexemes_of_derives` — a phrase is read, or is too deep.
* `stops_of_parseLexemes` — an error is one of the text, never want of fuel.
* `parse_eq_ok_iff_standsFor` — **the language that `parse` reads**.

## References

`SPEC_FULL.md`, 10.1, on precedence; the reference's tests `test_arithmetic_precedence`,
`test_ternary_is_right_associative` and `test_malformed_expressions`.
-/

namespace ExprLang

variable {src : Lexemes} {e : Expr} {text : String}

/-! ### Whole expressions -/

/-- The tokens of a whole expression are a phrase of the weakest level, and the text was read to its
end. -/
theorem wholeExpression_sound (src : Lexemes) (fuel : Nat) :
    Ensures (wholeExpression src fuel)
      (fun e _ => src.failure = none ∧ Derives .ternary (src.lexemes.map Lexeme.token) e)
      AnyStop ⟨src.lexemes, 0⟩ := by
  simp only [wholeExpression, Parser.plain]
  rw [ensures_bind]
  have hternary : Precedence.ternary ≠ .member := by simp
  have hsound := (sound src fuel).expression ⟨src.lexemes, 0⟩ hternary
  have hprogress := (progress src fuel).expression .ternary ⟨src.lexemes, 0⟩
  refine (hsound.and hprogress).mono ?_ fun _ _ _ => trivial
  rintro e s ⟨⟨ts, htokens, he, -⟩, hconsumes⟩
  rw [ensures_bind, ensures_ahead]
  -- nothing may be left over behind the expression
  split
  · next hnil =>
    have hts : src.lexemes.map Lexeme.token = ts := by
      simpa [ParserState.tokens, hnil] using htokens
    exact ⟨hconsumes.whole hnil, hts ▸ he⟩
  · exact ensures_unexpected_anyStop _

/-- A text whose tokens are a phrase is read as a whole expression, if there is room for it. -/
theorem wholeExpression_within {d : Derivation .ternary}
    (h : src.lexemes.map Lexeme.token = d.tokens) (fuel : Nat) :
    Ensures (wholeExpression src fuel) (fun e _ => e = d.tree)
      (fun stop _ => ExcusedWithin src d.charge 0 stop) ⟨src.lexemes, 0⟩ := by
  have hchain : ReadsChain src d := d.reads
  have hnone : ∀ t ∈ ([] : List Token).head?, t.level? = none := by simp
  -- the empty rest admits no further operator, which is what the loop needs to stop
  have haccepts : Accepts src d.charge (wholeExpression src fuel) (d.tokens ++ [])
      (fun e _ => e = d.tree) := by
    rw [wholeExpression]
    refine accepts_bind ?_
    refine hchain.expression (by simp [NoLink]) (follows_of_level?_eq_none hnone)
      (ends_of_level?_eq_none hnone) (Nat.le_refl _) ?_ fuel
    refine accepts_ahead fun _ hs => ?_
    obtain rfl := List.map_eq_nil_iff.mp hs
    exact accepts_pure rfl
  refine (haccepts ⟨src.lexemes, 0⟩ ?_).imp fun _ _ hread => hread.1
  rw [List.append_nil]
  exact h

/-- A text whose tokens are a phrase is read as a whole expression. -/
theorem wholeExpression_complete (h : Derives .ternary (src.lexemes.map Lexeme.token) e)
    (fuel : Nat) :
    Ensures (wholeExpression src fuel) (fun e' _ => e' = e) (Excused src) ⟨src.lexemes, 0⟩ := by
  obtain ⟨d, htokens, rfl⟩ := h.exists_derivation
  exact (wholeExpression_within htokens.symm fuel).mono (fun _ _ h => h) fun _ s h => h.excused s

/-! ### The tokens of a text -/

/-- The tokens of which a tree is made are a phrase, and they are those of the whole text. -/
theorem derives_of_parseLexemes (h : parseLexemes src = .ok e) :
    src.failure = none ∧ Derives .ternary (src.lexemes.map Lexeme.token) e := by
  have hsound := wholeExpression_sound src (fuelFor src.lexemes.length)
  unfold parseLexemes at h
  split at h
  · cases h
  · split at h
    case h_1 e' s hrun =>
      cases h
      exact hsound.of_ok hrun
    all_goals cases h

/-- A phrase is read as its tree, unless it takes more levels than may be open. -/
theorem parseLexemes_of_derivation {d : Derivation .ternary} (hwhole : src.failure = none)
    (h : src.lexemes.map Lexeme.token = d.tokens) :
    parseLexemes src = .ok d.tree ∨ maxDepth < d.charge ∧
      ∃ position, parseLexemes src = .error (.tooDeeplyNested maxDepth position) := by
  have hread := (wholeExpression_within h (fuelFor src.lexemes.length)).and
    (wholeExpression_ne_outOfFuel src)
  unfold parseLexemes
  split
  case h_1 hfailure => rw [hwhole] at hfailure; cases hfailure
  case h_2 =>
    unfold Ensures at hread
    rw [EStateM.run]
    cases hrun : (wholeExpression src (fuelFor src.lexemes.length) : Parser Expr) ⟨src.lexemes, 0⟩ with
    | ok e s =>
      rw [hrun] at hread
      exact .inl (congrArg Except.ok hread.1)
    | error stop s =>
      rw [hrun] at hread
      obtain ⟨hexcused, hfuel⟩ := hread
      cases stop with
      | outOfFuel => exact absurd rfl hfuel
      | error error =>
        -- the excuse is depth alone: the lexemes were read to the end without a failure
        rcases hexcused with ⟨hlt, position, rfl⟩ | hfailure
        · exact .inr ⟨by omega, position, rfl⟩
        · rw [hwhole] at hfailure
          cases hfailure

/-- A phrase is read as its tree, unless it is too deep. -/
theorem parseLexemes_of_derives (hwhole : src.failure = none)
    (h : Derives .ternary (src.lexemes.map Lexeme.token) e) :
    parseLexemes src = .ok e ∨
      ∃ limit position, parseLexemes src = .error (.tooDeeplyNested limit position) := by
  obtain ⟨d, htokens, rfl⟩ := h.exists_derivation
  exact (parseLexemes_of_derivation hwhole htokens.symm).imp_right
    fun ⟨_, position, herror⟩ => ⟨maxDepth, position, herror⟩

/-- An error is the one with which the tokens of the text end, if there are none, or the one with
which reading stops.  Want of fuel is never the reason for it. -/
theorem stops_of_parseLexemes {error : ParseError} (h : parseLexemes src = .error error) :
    src.lexemes = [] ∧ src.failure = some error ∨
      ∃ s, (wholeExpression src (fuelFor src.lexemes.length) : Parser Expr) ⟨src.lexemes, 0⟩ =
        .error (.error error) s := by
  have hfuel := wholeExpression_ne_outOfFuel src
  unfold parseLexemes at h
  split at h
  -- the one error that the parser itself does not report: the first token is unreadable
  case h_1 hnil hfailure =>
    cases h
    exact .inl ⟨hnil, hfailure⟩
  case h_2 =>
    unfold Ensures at hfuel
    rw [EStateM.run] at h
    cases hrun : (wholeExpression src (fuelFor src.lexemes.length) : Parser Expr) ⟨src.lexemes, 0⟩ with
    | ok e s =>
      rw [hrun] at h
      cases h
    | error stop s =>
      rw [hrun] at h hfuel
      cases stop with
      | outOfFuel => exact absurd rfl hfuel
      | error error' =>
        cases h
        exact .inr ⟨s, rfl⟩

/-! ### Texts -/

/-- Blanks alone make no token. -/
theorem lexemes_eq_nil_of_isBlankText (h : isBlankText text) : (lexemesOf text).lexemes = [] := by
  have hrest : (Cursor.start text).skipBlanks.rest = [] := by
    refine List.dropWhile_eq_nil_iff.mpr ?_
    simpa [Cursor.start, isBlankText] using h
  have hnext : (Cursor.start text).next = .finished (Cursor.start text).skipBlanks := by
    simp only [Cursor.next]
    rw [hrest]
  rw [lexemesOf, Cursor.lexemes]
  split
  · rfl
  · rfl
  · next hlexeme => rw [hnext] at hlexeme; cases hlexeme

theorem not_isBlankText_of_derives {p : Precedence} (h : Derives p (tokensOf text) e) :
    ¬ isBlankText text := by
  intro hblank
  refine h.ne_nil ?_
  rw [tokensOf, lexemes_eq_nil_of_isBlankText hblank]
  rfl

theorem StandsFor.of_parse (h : parse text = .ok e) : StandsFor text e := by
  unfold parse at h
  split at h
  · cases h
  · obtain ⟨hwhole, hderives⟩ := derives_of_parseLexemes h
    exact ⟨hwhole, hderives.readable, hderives⟩

/-- **The language that `parse` reads.**  A text that is not too deep to be read is read as a tree
exactly if its tokens are a phrase with this tree.  There is no other tree that it stands for. -/
theorem parse_eq_ok_iff_standsFor (text : String)
    (hdeep : ∀ limit position, parse text ≠ .error (.tooDeeplyNested limit position)) :
    (∀ e, parse text = .ok e ↔ StandsFor text e) ∧
      ∀ e e', StandsFor text e → StandsFor text e' → e = e' := by
  have hread : ∀ e, StandsFor text e → parse text = .ok e := by
    intro e h
    have hparse : parse text = parseLexemes (lexemesOf text) := by
      rw [parse, if_neg (not_isBlankText_of_derives h.derives)]
    rw [hparse] at hdeep ⊢
    rcases parseLexemes_of_derives h.whole h.derives with hok | ⟨limit, position, herror⟩
    · exact hok
    · exact absurd herror (hdeep limit position)
  refine ⟨fun e => ⟨StandsFor.of_parse, hread e⟩, fun e e' h h' => ?_⟩
  have heq : (Except.ok e : Except ParseError Expr) = .ok e' := by
    rw [← hread e h, hread e' h']
  exact Except.ok.inj heq

/-- Subtractions lean to the left, and conditionals to the right. -/
theorem standsFor_subtractions :
    StandsFor "not a.b(1) - c - d * 2 ? x : y ?: z"
      (.conditional
        (.binary .subtract
          (.binary .subtract (.unary .not (.call (.identifier "a") "b" [.literal (.integer 1)] false))
            (.identifier "c"))
          (.binary .multiply (.identifier "d") (.literal (.integer 2))))
        (.identifier "x") (.elvis (.identifier "y") (.identifier "z"))) := by
  refine ((parse_eq_ok_iff_standsFor _ ?notDeep).1 _).mp ?parsed
  case parsed => decide +kernel
  case notDeep =>
    have hok : (parse "not a.b(1) - c - d * 2 ? x : y ?: z").toOption.isSome := by decide +kernel
    intro limit position herror
    rw [herror] at hok
    cases hok

end ExprLang
