import ExprLang.Proofs.Parser.Budget
import ExprLang.Proofs.Parser.Levels

/-!
# Reading consumes tokens

The record of reading a text is lawful: calls are made, and come to an end, only as their account allows.
It is short as well, for the readers keep to their budgets.  An expression leaves one moment over for the
one that calls it, an operand ten, and so on; what may read nothing, such as the operators behind an
operand, leaves nothing over and costs nothing.

## Main definitions

* `Levels.AllSpend` — the budgets of the readers.
* `Levels.Consuming` — what the record of a text is like.

## Main results

* `Levels.allSpend` — the readers keep to their budgets.
* `Levels.parse_consumes` — **reading a text always consumes tokens, and comes to an end by that**.

## References

The reference's `advance`, `expect` and the loops of `parse_operators`, `parse_list_items` and
`parse_postfix_chain`.
-/

namespace ExprLang
namespace Levels

variable {src : Lexemes}

/-! ### The readers -/

/-- What the readers cost with some fuel. -/
structure AllSpend (src : Lexemes) (fuel : ℕ) : Prop where
  expression : ∀ least, Spends src Any 4 (-1) 11 (expression src fuel least)
  operators : ∀ least left, Spends src Any 0 0 0 (operators src fuel least left)
  unary : Spends src Any 1 (-10) 2 (unary src fuel)
  primary : Spends src Any 0 (-15) 0 (primary src fuel)
  elements : ∀ closer, Spends src Any 4 (-15) 11 (elements src fuel closer)
  moreElements : ∀ closer, Spends src Any 4 (-16) 11 (moreElements src fuel closer)
  members : ∀ base, Spends src Any 0 0 0 (members src fuel base)

variable {fuel : ℕ}

theorem allSpend_zero : AllSpend src 0 where
  expression _ := by
    rw [expression]
    exact spends_throw _
  operators _ _ := by
    rw [operators]
    exact spends_throw _
  unary := by
    rw [unary]
    exact spends_throw _
  primary := by
    rw [primary]
    exact spends_throw _
  elements _ := by
    rw [elements]
    exact spends_throw _
  moreElements _ := by
    rw [moreElements]
    exact spends_throw _
  members _ := by
    rw [members]
    exact spends_throw _

theorem expression_spends (ih : AllSpend src fuel) (least : Precedence) :
    Spends src Any 4 (-1) 11 (expression src (fuel + 1) least) := by
  rw [expression]
  have hunary : Spends src Any 2 (-8) 4 (call .unary (unary src fuel)) :=
    ih.unary.call (r := .unary) (.inl (by decide))
  -- from the outside: the expression, the level that it holds, its body and the chain
  refine Spends.call (r := .expression) (b := -3) (e := 9) ?_ (.inl (by decide))
  refine Spends.within (b := -5) (e := 7) ?_
  refine Spends.call (r := .body) (b := -7) (e := 5) ?_ (.inl (by decide))
  refine Spends.chain (b := -8) (e := 4) ?_
  exact hunary.bind fun left => (ih.operators least left).mono

theorem operators_spends (ih : AllSpend src fuel) (least : Precedence) (left : Expr) :
    Spends src Any 0 0 0 (operators src (fuel + 1) least left) := by
  rw [operators]
  refine spends_peek_bind fun next => ?_
  rcases next with _ | t
  · exact spends_pure left
  · -- only three kinds of token go on with the loop, each paying for one link
    cases t with
    | question =>
      dsimp only
      split
      · refine Spends.link ?_ fun _ => ne_nil_of_head?
        refine (ih.expression _).raise.bind_of_neg fun _ => ?_
        refine (spends_lift (takes_expect _)).bind_of_neg fun _ => ?_
        exact (ih.expression _).raise.bind_of_neg fun _ => (ih.operators _ _).mono
      · exact spends_pure left
    | elvis =>
      dsimp only
      split
      · refine Spends.link ?_ fun _ => ne_nil_of_head?
        exact (ih.expression _).raise.bind_of_neg fun _ => (ih.operators _ _).mono
      · exact spends_pure left
    | operator op =>
      dsimp only
      split
      · refine Spends.link ?_ fun _ => ne_nil_of_head?
        exact (ih.expression _).raise.bind_of_neg fun _ => (ih.operators _ _).mono
      · exact spends_pure left
    | _ => exact spends_pure left

theorem unary_spends (ih : AllSpend src fuel) : Spends src Any 1 (-10) 2 (unary src (fuel + 1)) := by
  rw [unary]
  refine spends_peek_bind fun next => ?_
  have hoperand : Spends src Any 2 (-8) 4 (call .operand (unary src fuel)) :=
    ih.unary.call (r := .operand) (.inl (by decide))
  have hmembers : ∀ base, Spends src Any 4 1 1 (chain (members src fuel base)) := fun base =>
    Spends.chain (b := 0) (e := 0) (ih.members base).raise
  split
  · refine (spends_lift takes_of_head?).bind_of_neg fun _ => ?_
    exact hoperand.within.raise.bind_of_neg fun _ => spends_pure _
  · refine (spends_lift takes_of_head?).bind_of_neg fun _ => ?_
    exact hoperand.within.raise.bind_of_neg fun _ => spends_pure _
  · refine (ih.primary.call (r := .primary) (.inl (by decide))).bind_of_neg fun base => ?_
    exact ((hmembers base).call (r := .members) (.inr rfl)).mono

theorem primary_spends (ih : AllSpend src fuel) :
    Spends src Any 0 (-15) 0 (primary src (fuel + 1)) := by
  rw [primary]
  refine spends_ahead_bind fun ls => ?_
  cases ls with
  | nil => exact spends_unexpected _
  | cons l rest =>
    have hnext : ∀ ahead : List Lexeme, ahead = l :: rest → ahead ≠ [] := by
      rintro _ rfl
      exact List.cons_ne_nil l rest
    -- the first token pays for all that is not paid for by the tokens behind it
    refine (spends_lift (takes_advance hnext)).bind_of_neg fun _ => ?_
    generalize atom? l = atom
    rcases atom with _ | e | e
    · generalize l.token = token
      cases token with
      | leftParen =>
        refine (ih.expression _).raise.bind_of_neg fun e => ?_
        exact (spends_lift (takes_expect _)).bind_of_neg fun _ => spends_pure e
      | leftBrace =>
        have hitems := (ih.elements .rightBrace).call (V := Any) (r := .items) (.inl (by decide))
        exact hitems.bind_of_neg fun _ => spends_pure _
      | _ => exact spends_throw _
    · exact spends_throw _
    · exact spends_pure _

theorem elements_spends (ih : AllSpend src fuel) (closer : Token) :
    Spends src Any 4 (-15) 11 (elements src (fuel + 1) closer) := by
  rw [elements]
  refine spends_peek_bind fun next => ?_
  split
  · next ht =>
    subst ht
    exact (spends_lift takes_of_head?).bind_of_neg fun _ => spends_pure _
  · exact (ih.moreElements closer).mono

theorem moreElements_spends (ih : AllSpend src fuel) (closer : Token) :
    Spends src Any 4 (-16) 11 (moreElements src (fuel + 1) closer) := by
  rw [moreElements]
  refine (ih.expression _).bind_of_neg fun e => spends_peek_bind fun next => ?_
  split
  · next ht =>
    subst ht
    refine (spends_lift takes_of_head?).bind_of_neg fun _ => ?_
    exact (ih.moreElements closer).raise.bind_of_neg fun _ => spends_pure _
  · split
    · next ht =>
      subst ht
      exact (spends_lift takes_of_head?).bind_of_neg fun _ => spends_pure _
    · exact spends_unexpected _

theorem members_spends (ih : AllSpend src fuel) (base : Expr) :
    Spends src Any 0 0 0 (members src (fuel + 1) base) := by
  rw [members]
  refine spends_peek_bind fun next => ?_
  dsimp only
  split
  · next hdot =>
    -- a property or a call
    refine Spends.link ?_ ?_
    · refine (spends_lift takes_memberName).bind_of_neg fun _ => spends_peek_bind fun next => ?_
      split
      · next ht =>
        subst ht
        have harguments := (ih.elements .rightParen).call (V := Any) (r := .arguments)
          (.inl (by decide))
        refine (spends_lift takes_of_head?).bind_of_neg fun _ => ?_
        exact harguments.bind_of_neg fun _ => (ih.members _).mono
      · exact (ih.members _).mono
    · rcases hdot with rfl | rfl <;> exact fun _ => ne_nil_of_head?
  · split
    · next ht =>
      -- an index
      subst ht
      refine Spends.link ?_ fun _ => ne_nil_of_head?
      refine (ih.expression _).raise.bind_of_neg fun _ => ?_
      exact (spends_lift (takes_expect _)).bind_of_neg fun _ => (ih.members _).mono
    · exact spends_pure base

theorem allSpend : ∀ fuel, AllSpend src fuel
  | 0 => allSpend_zero
  | fuel + 1 =>
    have ih := allSpend fuel
    { expression := expression_spends ih
      operators := operators_spends ih
      unary := unary_spends ih
      primary := primary_spends ih
      elements := elements_spends ih
      moreElements := moreElements_spends ih
      members := members_spends ih }

theorem wholeExpression_spends (fuel : ℕ) : Spends src Any 4 0 11 (wholeExpression src fuel) := by
  rw [wholeExpression]
  refine ((allSpend fuel).expression _).bind_of_neg fun e => spends_ahead_bind fun ls => ?_
  cases ls with
  | nil => exact spends_pure e
  | cons l rest => exact spends_unexpected _

/-! ### Whole texts -/

theorem read_pays (src : Lexemes) :
    Pays src [] 0 11 ⟨⟨src.lexemes, 0⟩, 0, []⟩ (read src) := by
  have hstands : Stands src [] true ⟨⟨src.lexemes, 0⟩, 0, []⟩ :=
    ⟨trivial, rfl, List.suffix_refl _, fun _ => rfl⟩
  -- where no call is active everything may be called
  have hadmits : Admits 4 [] ⟨⟨src.lexemes, 0⟩, 0, []⟩ := fun c hc => absurd hc (Option.not_mem_none c)
  exact wholeExpression_spends _ _ _ hstands hadmits trivial

/-- A record of which all was allowed, and which the tokens have paid for. -/
def Paid (src : Lexemes) (log : List Moment) : Prop :=
  (Account.start src).Lawful log ∧ log.length ≤ 15 * src.lexemes.length + 11

theorem Spent.paid {b : ℤ} {t : State} (h : Spent b ⟨⟨src.lexemes, 0⟩, 0, []⟩ t) (hb : b ≤ 11)
    (hlawful : (Account.start src).Lawful t.log) : Paid src t.log := by
  have hexpense := h.expense
  simp only [State.expense, List.length_nil] at hexpense
  exact ⟨hlawful, by omega⟩

theorem parse_paid (text : String) : Paid (lexemesOf text) (parse text).2 := by
  unfold parse
  split
  · exact ⟨trivial, Nat.zero_le _⟩
  · generalize lexemesOf text = src
    have hpays := read_pays src
    dsimp only
    split
    · exact ⟨trivial, Nat.zero_le _⟩
    · generalize read src = outcome at hpays ⊢
      cases hpays with
      | ok hstands hspent => exact hspent.paid (by decide) hstands.lawful
      | @error stop t hstands hspent =>
        cases stop with
        | error e => exact hspent.paid (by decide) hstands.lawful
        | outOfFuel => exact hspent.paid (by decide) hstands.lawful

/-- What the record of reading a text is like if tokens are always consumed. -/
structure Consuming (src : Lexemes) (log : List Moment) : Prop where
  /-- The tokens ahead are the last ones of the text. -/
  of_source : ∀ m ∈ log, m.state.ahead <:+ src.lexemes
  /-- Tokens are never given back. -/
  never_back : log.Pairwise fun earlier later => later.state.ahead <:+ earlier.state.ahead
  /-- Every call returns.  If it returns with a result it has consumed a token, but for the call that
  reads members; if it returns with an error, then nothing is called any more and no link is added. -/
  returns : ∀ before r s after, log = before ++ ⟨.called r, s⟩ :: after →
    ∃ during ok s' rest, after = during ++ ⟨.returned r ok, s'⟩ :: rest ∧
      StayActive (before ++ [⟨.called r, s⟩]) during ∧
      active (before ++ ⟨.called r, s⟩ :: during) = r :: active before ∧
      (ok = true → r ≠ .members → s'.ahead.length < s.ahead.length) ∧
      (ok = false → ∀ m ∈ rest, m.event ≠ .linked ∧ ∀ r', m.event ≠ .called r')
  /-- Each link of a chain finds fewer tokens than all that was before it. -/
  links : ∀ before s after, log = before ++ ⟨.linked, s⟩ :: after →
    ∀ m ∈ before, s.ahead.length < m.state.ahead.length
  /-- Of two calls that are made one after the other, with the same calls around them, the second finds
  fewer tokens. -/
  successive : ∀ before r s during r' s' after,
    log = before ++ ⟨.called r, s⟩ :: (during ++ ⟨.called r', s'⟩ :: after) →
    active (before ++ ⟨.called r, s⟩ :: during) = active before → r ≠ .members →
      s'.ahead.length < s.ahead.length
  /-- A call inside another finds fewer tokens, or as many and is nearer to an operand. -/
  nested : ∀ before r s during r' s' after,
    log = before ++ ⟨.called r, s⟩ :: (during ++ ⟨.called r', s'⟩ :: after) →
    StayActive (before ++ [⟨.called r, s⟩]) during →
      toLex (s'.ahead.length, r'.toPrimary) < toLex (s.ahead.length, r.toPrimary)
  /-- No more happens than the tokens pay for. -/
  bounded : log.length ≤ 15 * src.lexemes.length + 11

/-- What stays active around a call, and the call itself. -/
theorem stayActive_of_suffix {before during : List Moment} {r : Routine} {s : ParserState}
    (h : ∀ first, first <+: during →
      r :: active before <:+ active (before ++ ⟨.called r, s⟩ :: first)) :
    StayActive (before ++ [⟨.called r, s⟩]) during := by
  intro first hfirst
  rw [active_concat_called, List.append_assoc]
  exact h first hfirst

theorem Paid.consuming {log : List Moment} (h : Paid src log) (hpath : Path ⟨[], 0⟩ log ⟨[], 0⟩) :
    Consuming src log where
  of_source _ hm := h.1.ahead_of_mem hm
  never_back := h.1.pairwise
  returns before r s after hlog := by
    -- what a call does stands between its own entry and the return that closes it
    obtain ⟨hlawful, -⟩ := h
    subst hlog
    obtain ⟨during, ok, s', rest, rfl, -, hactive, hstays⟩ := hpath.exists_return_of_called
    have hstay := stayActive_of_suffix hstays
    refine ⟨during, ok, s', rest, rfl, hstay, hactive, ?_, ?_⟩
    · rintro rfl hr
      exact length_lt_of_returned_ok hlawful hstay hactive hr
    · rintro rfl m hm
      rw [← List.cons_append, ← List.append_assoc] at hlawful
      exact ends_of_returned_error hlawful hm
  links _ _ _ hlog _ hm := length_lt_of_linked (hlog ▸ h.1) hm
  successive _ _ _ _ _ _ _ hlog hactive hr := length_lt_of_called_again (hlog ▸ h.1) hactive hr
  nested _ _ _ _ _ _ _ hlog hstay := measure_lt_of_stayActive (hlog ▸ h.1) hstay
  bounded := h.2

/-- **Reading a text always consumes tokens, and comes to an end by that.**  The reader that keeps a
record reads every text as `parse` does.  With fuel for each token neither of them is ever stopped by the
want of it, whatever the text.  All that happens is recorded, and

* a call that returns with a result has consumed a token, except for the one that reads members;
* another link of a chain of operators or of members, and another item or argument, are read only where
  a token has been consumed since the last one;
* no call is inside another unless it finds fewer tokens or is nearer to an operand;
* there is no more in the record than the tokens of the text pay for. -/
theorem parse_consumes (text : String) :
    let src := lexemesOf text
    (parse text).1 = ExprLang.parse text ∧
      (∀ fuel, 5 * src.lexemes.length + 3 ≤ fuel →
        (∀ s, (wholeExpression src fuel : Parser Expr) ⟨src.lexemes, 0⟩ ≠ .error .outOfFuel s) ∧
          ∀ t, (wholeExpression src fuel : Reader Expr) ⟨⟨src.lexemes, 0⟩, 0, []⟩ ≠
            .error .outOfFuel t) ∧
      Consuming src (parse text).2 := by
  intro src
  obtain ⟨hparse, hpath⟩ := parse_path text
  refine ⟨hparse, fun fuel hfuel => ⟨fun s hs => ?_, fuel_suffices hfuel⟩,
    (parse_paid text).consuming hpath⟩
  have hgrammar := wholeExpression_ne_outOfFuel_of_le hfuel
  unfold Ensures at hgrammar
  rw [hs] at hgrammar
  exact hgrammar rfl

/-- A call that breaks off: all that was begun for its seven tokens comes to an end. -/
example : (parse "f.g(1, -").2.length = 46 := by decide +kernel

end Levels
end ExprLang
