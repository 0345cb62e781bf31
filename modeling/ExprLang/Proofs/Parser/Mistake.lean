import ExprLang.Proofs.Parser.Lookahead
import ExprLang.Proofs.Token.Failure
import ExprLang.Proofs.Token.Lossless

/-!
# Errors tell the first mistake

Where a text is refused because of a token, this is the first one that cannot stand where it does:
those before it can be completed to a sentence, and with it they cannot.  Where it is refused because
of its end, the whole text can be completed to a sentence and is none.

## Main results

* `lexical_lexemes` — the errors that end the tokens of a text are not about tokens.
* `parse_error_points_at_mistake` — **errors tell the first mistake**.

## References

`SPEC_FULL.md`, 10.1, on the position of a parse error; the reference's `unexpected`.
-/

namespace ExprLang

/-! ### Errors of tokens -/

theorem lexical_lexemes (c : Cursor) : c.lexemes.Lexical := by
  intro e he hunexpected
  have hlexical := isLexical_of_failure he
  cases e with
  | unexpectedToken | unexpectedEnd => exact hlexical
  | _ => exact hunexpected

/-! ### Places -/

/-- No two lexemes of a text start at one place. -/
theorem pairwise_start_ne (text : String) :
    (lexemesOf text).lexemes.Pairwise fun l m => m.start ≠ l.start := by
  obtain ⟨c, hreads, -⟩ := (Cursor.start text).exists_reads_lexemes
  have hlossless := lossless_of_reads hreads
  refine hlossless.ordered.imp_of_mem fun {l m} hl _ hle => ?_
  have hspan := (hlossless.spans l hl).1
  omega

/-! ### Texts -/

section

variable {text : String} {e : ParseError}

/-- Where a text is refused because of a token or its end, the tokens before can be completed to a
sentence, but not if what is there comes next. -/
theorem exists_cut_of_parse (h : parse text = .error e) (he : e.IsUnexpected) :
    ∃ before after, (lexemesOf text).lexemes = before ++ after ∧
      (after = [] → (lexemesOf text).failure = none) ∧ e.Marks after ∧
      Viable (before.map Lexeme.token) ∧
      ∀ ts : List Token, ts.head? = after.head?.map Lexeme.token →
        ¬ Sentence ((before.map Lexeme.token ++ ts).map Token.shape) := by
  have hlexical : (lexemesOf text).Lexical := lexical_lexemes _
  have hparse : parseLexemes (lexemesOf text) = .error e := by
    unfold parse at h
    split at h
    · cases h
      exact he.elim
    · exact h
  rcases stops_of_parseLexemes hparse with ⟨-, hfailure⟩ | ⟨s, hrun⟩
  · exact absurd he (hlexical e hfailure)
  · have hstuck := wholeExpression_stuck hlexical (fuelFor (lexemesOf text).lexemes.length)
    rw [Ensures, hrun] at hstuck
    obtain ⟨before, after, ⟨hsplit, hend⟩, hmarks, hviable⟩ := hstuck he
    have hsplit : (lexemesOf text).lexemes = before ++ after := hsplit
    refine ⟨before, after, hsplit, fun hafter => ?_, hmarks, hviable, fun ts hts => ?_⟩
    · refine (hend hafter).elim (fun hbefore => ?_) id
      cases hfailure : (lexemesOf text).failure with
      | none => rfl
      | some e' =>
        -- a text without tokens is refused with the error that ends them
        rw [hbefore, hafter, List.append_nil] at hsplit
        have hfirst : parseLexemes (lexemesOf text) = .error e' := by
          simp only [parseLexemes, hsplit, hfailure]
        cases hparse.symm.trans hfirst
        exact absurd he (hlexical e hfailure)
    · have hstarts := pairwise_start_ne text
      rw [hsplit] at hstarts
      have hafter := (List.pairwise_append.mp hstarts).2.1
      exact not_sentence_of_marks hlexical hafter hrun hsplit hmarks hts

end

/-- **Errors tell the first mistake.**  If a text is refused because of a token at a place, there is
this token, those before it can be completed to a sentence, and with it they cannot.  If it is refused
because of its end, all of it was read as tokens, and they can be completed to a sentence and are none.
What the literals hold is not the reason for it. -/
theorem parse_error_points_at_mistake (text : String) :
    (∀ found expected p, parse text = .error (.unexpectedToken found expected p) →
      ∃ before l after, (lexemesOf text).lexemes = before ++ l :: after ∧
        l.start = p ∧ l.token = found ∧
        Viable (before.map Lexeme.token) ∧
        ¬ Viable (before.map Lexeme.token ++ [l.token]) ∧
        ¬ Viable ((before.map Lexeme.token ++ [l.token]).map Token.shape)) ∧
    (∀ expected, parse text = .error (.unexpectedEnd expected) →
      (lexemesOf text).failure = none ∧ Viable (tokensOf text) ∧
        ¬ Sentence (tokensOf text) ∧ ¬ Sentence ((tokensOf text).map Token.shape)) := by
  refine ⟨fun found expected p h => ?_, fun expected h => ?_⟩
  · obtain ⟨before, after, hsplit, -, hmarks, hviable, hnot⟩ := exists_cut_of_parse h trivial
    cases after with
    | nil =>
      obtain ⟨expected', heq⟩ := hmarks
      cases heq
    | cons l after =>
      obtain ⟨expected', heq⟩ := hmarks
      cases heq
      -- what goes on with the token would go on with one of the same shape as well
      have hmistake : ¬ Viable ((before.map Lexeme.token ++ [l.token]).map Token.shape) := by
        rintro ⟨us, hus⟩
        have hshape := hus.shape
        rw [List.map_append, map_shape_map_shape, ← List.map_append, List.append_assoc] at hshape
        exact hnot (l.token :: us) rfl hshape
      exact ⟨before, l, after, hsplit, rfl, rfl, hviable, fun hus => hmistake hus.shape, hmistake⟩
  · obtain ⟨before, after, hsplit, hwhole, hmarks, hviable, hnot⟩ := exists_cut_of_parse h trivial
    cases after with
    | cons l after =>
      obtain ⟨expected', heq⟩ := hmarks
      cases heq
    | nil =>
      -- nothing is behind the cut, so all tokens are before it
      have htokens : tokensOf text = before.map Lexeme.token := by
        rw [tokensOf, hsplit, List.append_nil]
      have hmistake : ¬ Sentence ((tokensOf text).map Token.shape) := by
        rw [htokens]
        have hbefore := hnot [] rfl
        rwa [List.append_nil] at hbefore
      exact ⟨hwhole rfl, htokens ▸ hviable, fun hts => hmistake hts.shape, hmistake⟩

/-- Behind a comma there must be another argument, and a conditional has two branches. -/
theorem parse_error_points_at_mistake_of_arguments :
    (∃ before l after, (lexemesOf "f.g(1, )").lexemes = before ++ l :: after ∧
      l.start = 7 ∧ l.token = .rightParen ∧ Viable (before.map Lexeme.token) ∧
      ¬ Viable (before.map Lexeme.token ++ [l.token]) ∧
      ¬ Viable ((before.map Lexeme.token ++ [l.token]).map Token.shape)) ∧
    ((lexemesOf "a ? 'b'").failure = none ∧ Viable (tokensOf "a ? 'b'") ∧
      ¬ Sentence (tokensOf "a ? 'b'") ∧ ¬ Sentence ((tokensOf "a ? 'b'").map Token.shape)) :=
  ⟨(parse_error_points_at_mistake "f.g(1, )").1 .rightParen .operand 7 (by decide +kernel),
    (parse_error_points_at_mistake "a ? 'b'").2 (.token .colon) (by decide +kernel)⟩

end ExprLang
