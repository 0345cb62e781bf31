import ExprLang.Proofs.Parser.Invariant
import ExprLang.Proofs.Parser.Language
import ExprLang.Proofs.Parser.Stuck
import ExprLang.Proofs.Token.Failure

/-!
# Why a text is refused

A text of blanks alone stands for nothing.  Any other one that is refused is refused for one of four
reasons: it cannot be read as tokens to its end, one of its literals stands for no value, a token or
the end cannot stand where it does, or there are too many levels.  What is consumed while reading are
tokens of the text, so these are also all that an error can be about.

## Main definitions

* `Lexemes.Refuses src e` — `e` is one of the four.

## Main results

* `refuses_of_parse` — the reasons for which a text is refused.
* `parse_eq_emptyExpression_iff` — only blanks are no expression at all.
-/

namespace ExprLang

/-- The reasons for which the tokens of a text make no expression. -/
inductive Lexemes.Refuses (src : Lexemes) : ParseError → Prop
  | failure {e : ParseError} (h : src.failure = some e) : Refuses src e
  | literal {e : ParseError} {l : Lexeme} (hl : l ∈ src.lexemes) (h : atom? l = some (.error e)) :
    Refuses src e
  | unexpected {e : ParseError} (h : e.IsUnexpected) : Refuses src e
  | deep (position : Nat) : Refuses src (.tooDeeplyNested maxDepth position)

/-- The reasons for which reading stops. -/
def Lexemes.Stops (src : Lexemes) : Stop → Prop
  | .error e => src.Refuses e
  | .outOfFuel => True

/-- What is ahead are tokens of the text. -/
theorem invariant_suffix (src : Lexemes) :
    Invariant src (fun s => s.ahead <:+ src.lexemes) src.Stops where
  opened hs _ := hs
  closed hs := hs
  advanced hs hahead _ := (List.suffix_cons _ _).trans (hahead ▸ hs)
  failed h := .failure h
  deep _ := .deep _
  unexpectedEnd _ _ _ := .unexpected trivial
  unexpectedToken _ _ _ := .unexpected trivial
  literal hs hahead h := .literal (hs.subset (hahead ▸ List.mem_cons_self)) h
  fuel := trivial

theorem refuses_of_parseLexemes {src : Lexemes} {e : ParseError} (h : parseLexemes src = .error e) :
    src.Refuses e := by
  rcases stops_of_parseLexemes h with ⟨-, hfailure⟩ | ⟨s, hrun⟩
  · exact .failure hfailure
  · have hstops := (invariant_suffix src).keeps (fuelFor src.lexemes.length) ⟨src.lexemes, 0⟩
      (List.suffix_refl _)
    rw [Ensures, hrun] at hstops
    exact hstops

/-- **Why a text is refused.** -/
theorem refuses_of_parse {text : String} {e : ParseError} (h : parse text = .error e) :
    e = .emptyExpression ∨ (lexemesOf text).Refuses e := by
  unfold parse at h
  split at h
  · cases h
    exact .inl rfl
  · exact .inr (refuses_of_parseLexemes h)

/-- Whatever the reason, it is not that there is nothing. -/
theorem Lexemes.Refuses.ne_emptyExpression {c : Cursor} {e : ParseError}
    (h : c.lexemes.Refuses e) : e ≠ .emptyExpression := by
  rintro rfl
  cases h with
  | failure hfailure => exact isLexical_of_failure hfailure
  | @literal _ l _ hatom =>
    obtain ⟨t, start, stop⟩ := l
    cases t with
    | decimal digits =>
      simp only [atom?, Option.some.injEq] at hatom
      split at hatom <;> cases hatom
    | string body =>
      simp only [atom?, Option.some.injEq] at hatom
      split at hatom <;> cases hatom
    | _ => simp [atom?] at hatom
  | unexpected hunexpected => exact hunexpected

/-- Only blanks are no expression at all. -/
theorem parse_eq_emptyExpression_iff {text : String} :
    parse text = .error .emptyExpression ↔ isBlankText text = true := by
  unfold parse
  split
  · next hblank => exact iff_of_true rfl hblank
  · next hblank =>
    refine iff_of_false (fun h => ?_) hblank
    exact (refuses_of_parseLexemes h).ne_emptyExpression rfl

end ExprLang
