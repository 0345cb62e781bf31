import ExprLang.Proofs.Parser.Language
import ExprLang.Proofs.Token.Lossless

/-!
# Where tokens stand

The readers of the grammar look at tokens alone.  Where a token stands is told by errors, and decides
nothing: from two sources of the same tokens the readers do the same, step by step, and what they end
with differs in places only.  So two texts of the same tokens stand for the same tree, or are refused for
the same reason.

## Main definitions

* `ParseError.unplaced` — an error without the place that it points at.
* `Lexemes.Like`, `ParserState.Like` — the same tokens, which may stand elsewhere.
* `SameEnd`, `Agree p q` — two runs, and two readers, that differ in places only.

## Main results

* `Lexemes.Like.allAgree` — the readers agree on sources of the same tokens.
* `parse_unplaced` — **the tree of a text goes by its tokens**.
-/

namespace ExprLang

/-- The error without the place that it points at. -/
def ParseError.unplaced : ParseError → ParseError
  | emptyExpression => emptyExpression
  | unexpectedToken found expected _ => unexpectedToken found expected 0
  | unexpectedEnd expected => unexpectedEnd expected
  | unexpectedCharacter c _ => unexpectedCharacter c 0
  | invalidNumber literal _ => invalidNumber literal 0
  | unterminatedString _ => unterminatedString 0
  | invalidEscape sequence _ => invalidEscape sequence 0
  | tooDeeplyNested limit _ => tooDeeplyNested limit 0

/-! ### Sources, states and runs -/

/-- Both sources have the same tokens, and end with the same error if they do. -/
structure Lexemes.Like (src src' : Lexemes) : Prop where
  tokens : src.lexemes.map Lexeme.token = src'.lexemes.map Lexeme.token
  failure : src.failure.map ParseError.unplaced = src'.failure.map ParseError.unplaced

theorem Lexemes.Like.symm {src src' : Lexemes} (h : Lexemes.Like src src') : Lexemes.Like src' src :=
  ⟨h.tokens.symm, h.failure.symm⟩

/-- The same tokens are ahead, and the same number of levels is open. -/
structure ParserState.Like (s s' : ParserState) : Prop where
  tokens : s.tokens = s'.tokens
  depth : s.depth = s'.depth

/-- Both runs want fuel, or stop for errors that differ in their places. -/
inductive Stop.Like : Stop → Stop → Prop
  | error {e e' : ParseError} (h : e.unplaced = e'.unplaced) : Like (.error e) (.error e')
  | outOfFuel : Like .outOfFuel .outOfFuel

/-- Both runs have the same result, or stop for the same reason; places apart. -/
inductive SameEnd {α : Type} :
    EStateM.Result Stop ParserState α → EStateM.Result Stop ParserState α → Prop
  | ok (a : α) {s s' : ParserState} (h : s.Like s') : SameEnd (.ok a s) (.ok a s')
  | error {e e' : Stop} (s s' : ParserState) (h : e.Like e') : SameEnd (.error e s) (.error e' s')

/-- Run from states that differ in places, the two readers end alike. -/
def Agree {α : Type} (p q : Parser α) : Prop := ∀ s s', s.Like s' → SameEnd (p s) (q s')

/-- Two states have nothing ahead, or lexemes of the same token. -/
theorem ParserState.Like.ahead {s s' : ParserState} (h : s.Like s') :
    s.ahead = [] ∧ s'.ahead = [] ∨
      ∃ l rest l' rest', s.ahead = l :: rest ∧ s'.ahead = l' :: rest' ∧ l.token = l'.token ∧
        rest.map Lexeme.token = rest'.map Lexeme.token := by
  have htokens : s.ahead.map Lexeme.token = s'.ahead.map Lexeme.token := h.tokens
  cases hs : s.ahead with
  | nil =>
    rw [hs, List.map_nil] at htokens
    exact .inl ⟨rfl, List.map_eq_nil_iff.mp htokens.symm⟩
  | cons l rest =>
    rw [hs, List.map_cons] at htokens
    obtain ⟨l', rest', hs', htoken, hrest⟩ := List.map_eq_cons_iff.mp htokens.symm
    exact .inr ⟨l, rest, l', rest', rfl, hs', htoken.symm, hrest.symm⟩

section

variable {src src' : Lexemes} {α β : Type}

/-! ### Putting readers together -/

theorem agree_pure (a : α) : Agree (pure a) (pure a) := fun _ _ hs => .ok a hs

theorem agree_throw {e e' : Stop} (h : e.Like e') :
    Agree (throw e : Parser α) (throw e') := fun s s' _ => .error s s' h

theorem agree_peek : Agree peek peek := by
  intro s s' hs
  have hhead : s.ahead.head?.map Lexeme.token = s'.ahead.head?.map Lexeme.token := by
    rw [← List.head?_map, ← List.head?_map]
    exact congrArg List.head? hs.tokens
  rw [peek, peek, hhead]
  exact .ok _ hs

theorem Agree.bind {p q : Parser α} {f g : α → Parser β} (hp : Agree p q)
    (hf : ∀ a, Agree (f a) (g a)) : Agree (p >>= f) (q >>= g) := by
  intro s s' hs
  have hend := hp s s' hs
  simp only [Bind.bind, EStateM.bind]
  cases hps : p s <;> cases hqs : q s' <;> rw [hps, hqs] at hend <;> cases hend
  case ok h => exact hf _ _ _ h
  case error h => exact .error _ _ h

theorem agree_ahead_bind {f g : List Lexeme → Parser α}
    (h : ∀ s s' : ParserState, s.Like s' → Agree (f s.ahead) (g s'.ahead)) : Agree (ahead >>= f) (ahead >>= g) :=
  fun s s' hs => h s s' hs s s' hs

theorem agree_unexpected (expected : Expectation) :
    Agree (unexpected expected : Parser α) (unexpected expected) := by
  intro s s' hs
  rcases hs.ahead with ⟨h, h'⟩ | ⟨l, rest, l', rest', h, h', htoken, -⟩
  · simp only [unexpected, h, h']
    exact .error _ _ (.error rfl)
  · simp only [unexpected, h, h', htoken]
    exact .error _ _ (.error rfl)

theorem Agree.nested {p q : Parser α} (hp : Agree p q) :
    Agree (nested src p) (nested src' q) := by
  intro s s' hs
  simp only [ExprLang.nested, hs.depth]
  split
  · -- the two runs of the readers are known only by how they end
    have hend := hp { s with depth := s'.depth + 1 } { s' with depth := s'.depth + 1 }
      ⟨hs.tokens, rfl⟩
    revert hend
    generalize p _ = r
    generalize q _ = r'
    intro hend
    cases hend with
    | ok a h => exact .ok a ⟨h.tokens, by rw [h.depth]⟩
    | error _ _ h => exact .error _ _ h
  · exact .error _ _ (.error rfl)

namespace Lexemes.Like

variable (h : Lexemes.Like src src')
include h

theorem advance : Agree (advance src) (advance src') := by
  intro s s' hs
  rcases hs.ahead with ⟨hnil, hnil'⟩ | ⟨l, rest, l', rest', hcons, hcons', -, hrest⟩
  · simp only [ExprLang.advance, hnil, hnil']
    exact .ok () hs
  · cases rest with
    | nil =>
      obtain rfl : rest' = [] := List.map_eq_nil_iff.mp hrest.symm
      simp only [ExprLang.advance, hcons, hcons']
      -- the sources end alike behind the last token
      have hfailure := h.failure
      cases hf : src.failure with
      | none =>
        rw [hf] at hfailure
        rw [Option.map_eq_none_iff.mp hfailure.symm]
        exact .ok () ⟨rfl, hs.depth⟩
      | some e =>
        rw [hf] at hfailure
        obtain ⟨e', he', herror⟩ := Option.map_eq_some_iff.mp hfailure.symm
        rw [he']
        exact .error _ _ (.error herror.symm)
    | cons m rest =>
      obtain ⟨m', rest', rfl, -⟩ := List.map_eq_cons_iff.mp hrest.symm
      simp only [ExprLang.advance, hcons, hcons']
      exact .ok () ⟨hrest, hs.depth⟩

theorem expect (t : Token) : Agree (expect src t) (expect src' t) := by
  refine agree_peek.bind fun next => ?_
  split
  · exact h.advance
  · exact agree_unexpected _

theorem memberName : Agree (memberName src) (memberName src') := by
  refine agree_peek.bind fun next => ?_
  split
  · exact h.advance.bind fun _ => agree_pure _
  · exact agree_unexpected _

end Lexemes.Like

/-! ### The readers -/

/-- All readers agree with some fuel. -/
structure AllAgree (src src' : Lexemes) (fuel : ℕ) : Prop where
  expression : ∀ least, Agree (expression src fuel least) (expression src' fuel least)
  operators : ∀ least left, Agree (operators src fuel least left) (operators src' fuel least left)
  unary : Agree (unary src fuel) (unary src' fuel)
  primary : Agree (primary src fuel) (primary src' fuel)
  elements : ∀ closer, Agree (elements src fuel closer) (elements src' fuel closer)
  moreElements : ∀ closer, Agree (moreElements src fuel closer) (moreElements src' fuel closer)
  members : ∀ base, Agree (members src fuel base) (members src' fuel base)

/-- Two lexemes of one token are no expression, the same one, or none for the same reason. -/
theorem atoms_of_token_eq {l l' : Lexeme} (h : l.token = l'.token) :
    atom? l = none ∧ atom? l' = none ∨
      (∃ e, atom? l = some (.ok e) ∧ atom? l' = some (.ok e)) ∨
      ∃ e e', atom? l = some (.error e) ∧ atom? l' = some (.error e') ∧ e.unplaced = e'.unplaced := by
  obtain ⟨t, start, stop⟩ := l
  obtain ⟨t', start', stop'⟩ := l'
  obtain rfl : t = t' := h
  cases t with
  | integer | boolean | null | identifier | binding | component => exact .inr (.inl ⟨_, rfl, rfl⟩)
  | decimal digits =>
    simp only [atom?]
    cases Decimal.read? digits.toList with
    | some d => exact .inr (.inl ⟨_, rfl, rfl⟩)
    | none => exact .inr (.inr ⟨_, _, rfl, rfl, rfl⟩)
  | string body =>
    simp only [atom?]
    cases unescape body.toList with
    | ok cs => exact .inr (.inl ⟨_, rfl, rfl⟩)
    | error escape => exact .inr (.inr ⟨_, _, rfl, rfl, rfl⟩)
  | _ => exact .inl ⟨rfl, rfl⟩

namespace Lexemes.Like

variable {fuel : ℕ} (h : Lexemes.Like src src')

theorem allAgree_zero : AllAgree src src' 0 where
  expression _ := by
    rw [expression, expression]
    exact agree_throw .outOfFuel
  operators _ _ := by
    rw [operators, operators]
    exact agree_throw .outOfFuel
  unary := by
    rw [unary, unary]
    exact agree_throw .outOfFuel
  primary := by
    rw [primary, primary]
    exact agree_throw .outOfFuel
  elements _ := by
    rw [elements, elements]
    exact agree_throw .outOfFuel
  moreElements _ := by
    rw [moreElements, moreElements]
    exact agree_throw .outOfFuel
  members _ := by
    rw [members, members]
    exact agree_throw .outOfFuel

include h

theorem operators_agree (ih : AllAgree src src' fuel) (least : Precedence) (left : Expr) :
    Agree (operators src (fuel + 1) least left) (operators src' (fuel + 1) least left) := by
  rw [operators, operators]
  refine agree_peek.bind fun t => ?_
  split
  · -- a conditional
    split
    · refine h.advance.bind fun _ => Agree.nested ?_
      refine (ih.expression _).bind fun _ => (h.expect _).bind fun _ => ?_
      exact (ih.expression _).bind fun _ => ih.operators _ _
    · exact agree_pure _
  · -- a fallback
    split
    · refine h.advance.bind fun _ => Agree.nested ?_
      exact (ih.expression _).bind fun _ => ih.operators _ _
    · exact agree_pure _
  · -- a binary operator
    split
    · refine h.advance.bind fun _ => Agree.nested ?_
      exact (ih.expression _).bind fun _ => ih.operators _ _
    · exact agree_pure _
  · exact agree_pure _

theorem unary_agree (ih : AllAgree src src' fuel) :
    Agree (unary src (fuel + 1)) (unary src' (fuel + 1)) := by
  rw [unary, unary]
  refine agree_peek.bind fun t => ?_
  split
  · exact h.advance.bind fun _ => ih.unary.nested.bind fun _ => agree_pure _
  · exact h.advance.bind fun _ => ih.unary.nested.bind fun _ => agree_pure _
  · exact ih.primary.bind fun _ => ih.members _

theorem primary_agree (ih : AllAgree src src' fuel) :
    Agree (primary src (fuel + 1)) (primary src' (fuel + 1)) := by
  rw [primary, primary]
  refine agree_ahead_bind fun s s' hs => ?_
  rcases hs.ahead with ⟨hnil, hnil'⟩ | ⟨l, rest, l', rest', hcons, hcons', htoken, -⟩
  · rw [hnil, hnil']
    exact agree_unexpected _
  · rw [hcons, hcons']
    refine h.advance.bind fun _ => ?_
    rw [htoken]
    -- literals that cannot be read fail in both texts with the same error but for the place
    rcases atoms_of_token_eq htoken with
      ⟨hnone, hnone'⟩ | ⟨e, hok, hok'⟩ | ⟨e, e', herror, herror', he⟩
    · rw [hnone, hnone']
      split
      · contradiction
      · contradiction
      · exact (ih.expression _).bind fun _ => (h.expect _).bind fun _ => agree_pure _
      · exact (ih.elements _).bind fun _ => agree_pure _
      · exact agree_throw (.error rfl)
    · rw [hok, hok']
      exact agree_pure e
    · rw [herror, herror']
      exact agree_throw (.error he)

theorem elements_agree (ih : AllAgree src src' fuel) (closer : Token) :
    Agree (elements src (fuel + 1) closer) (elements src' (fuel + 1) closer) := by
  rw [elements, elements]
  refine agree_peek.bind fun t => ?_
  split
  · exact h.advance.bind fun _ => agree_pure _
  · exact ih.moreElements closer

theorem moreElements_agree (ih : AllAgree src src' fuel) (closer : Token) :
    Agree (moreElements src (fuel + 1) closer) (moreElements src' (fuel + 1) closer) := by
  rw [moreElements, moreElements]
  refine (ih.expression _).bind fun _ => agree_peek.bind fun t => ?_
  split
  · exact h.advance.bind fun _ => (ih.moreElements closer).bind fun _ => agree_pure _
  · split
    · exact h.advance.bind fun _ => agree_pure _
    · exact agree_unexpected _

theorem members_agree (ih : AllAgree src src' fuel) (base : Expr) :
    Agree (members src (fuel + 1) base) (members src' (fuel + 1) base) := by
  rw [members, members]
  refine agree_peek.bind fun t => ?_
  dsimp only
  split
  · refine h.advance.bind fun _ => Agree.nested ?_
    refine h.memberName.bind fun _ => agree_peek.bind fun _ => ?_
    split
    · exact h.advance.bind fun _ => (ih.elements _).bind fun _ => ih.members _
    · exact ih.members _
  · split
    · refine h.advance.bind fun _ => Agree.nested ?_
      exact (ih.expression _).bind fun _ => (h.expect _).bind fun _ => ih.members _
    · exact agree_pure _

theorem allAgree : ∀ fuel, AllAgree src src' fuel
  | 0 => allAgree_zero
  | fuel + 1 =>
    have ih := allAgree fuel
    { expression := fun least => by
        rw [expression, expression]
        exact (ih.unary.bind fun left => ih.operators least left).nested
      operators := h.operators_agree ih
      unary := h.unary_agree ih
      primary := h.primary_agree ih
      elements := h.elements_agree ih
      moreElements := h.moreElements_agree ih
      members := h.members_agree ih }

theorem wholeExpression (fuel : ℕ) : Agree (wholeExpression src fuel) (wholeExpression src' fuel) := by
  rw [ExprLang.wholeExpression, ExprLang.wholeExpression]
  refine ((h.allAgree fuel).expression _).bind fun e => agree_ahead_bind fun s s' hs => ?_
  rcases hs.ahead with ⟨hnil, hnil'⟩ | ⟨l, rest, l', rest', hcons, hcons', -⟩
  · rw [hnil, hnil']
    exact agree_pure e
  · rw [hcons, hcons']
    exact agree_unexpected _

theorem nil (hnil : src.lexemes = []) : src'.lexemes = [] := by
  have htokens := h.tokens
  rw [hnil, List.map_nil] at htokens
  exact List.map_eq_nil_iff.mp htokens.symm

/-- Where the tokens of one source are read, so are those of the other. -/
theorem read (hread : src.lexemes = [] → src.failure = none) (hnil : src'.lexemes = []) :
    src'.failure = none := by
  have hfailure := h.failure
  rw [hread (h.symm.nil hnil)] at hfailure
  exact Option.map_eq_none_iff.mp hfailure.symm

/-- Sources of the same tokens make the same tree, or none for the same reason. -/
theorem parseLexemes : (parseLexemes src).mapError ParseError.unplaced =
    (parseLexemes src').mapError ParseError.unplaced := by
  -- the parser runs unless nothing was read before the first failure
  by_cases hread : src.lexemes = [] → src.failure = none
  · have hlength : src.lexemes.length = src'.lexemes.length := by
      rw [← List.length_map Lexeme.token, h.tokens, List.length_map]
    have hend := h.wholeExpression (fuelFor src'.lexemes.length) ⟨src.lexemes, 0⟩
      ⟨src'.lexemes, 0⟩ ⟨h.tokens, rfl⟩
    rw [parseLexemes_of_read hread, parseLexemes_of_read (h.read hread), hlength]
    revert hend
    generalize (ExprLang.wholeExpression src _ : Parser Expr) _ = r
    generalize (ExprLang.wholeExpression src' _ : Parser Expr) _ = r'
    intro hend
    cases hend with
    | ok e _ => rfl
    | error _ _ hstop =>
      cases hstop with
      | error herror => exact congrArg Except.error herror
      | outOfFuel => rfl
  · obtain ⟨hnil, hsome⟩ := Classical.not_imp.mp hread
    obtain ⟨e, he⟩ := Option.ne_none_iff_exists'.mp hsome
    have hfailure := h.failure
    rw [he] at hfailure
    obtain ⟨e', he', hunplaced⟩ := Option.map_eq_some_iff.mp hfailure.symm
    simp only [ExprLang.parseLexemes, hnil, he, h.nil hnil, he']
    exact congrArg Except.error hunplaced.symm

end Lexemes.Like

end

/-! ### Texts -/

/-- A text that can be read to its end has no tokens only if it holds nothing but blanks. -/
theorem isBlankText_iff {text : String} (hwhole : (lexemesOf text).failure = none) :
    isBlankText text ↔ tokensOf text = [] := by
  constructor
  · intro hblank
    rw [tokensOf, lexemes_eq_nil_of_isBlankText hblank, List.map_nil]
  · intro hnil
    have hsteps := (Cursor.start text).next_steps
    -- a text that is read without failure and has no token is finished at once
    cases hnext : (Cursor.start text).next with
    | finished after =>
      rw [hnext] at hsteps
      cases hsteps with
      | finished hblank _ => exact hblank
    | lexeme l after =>
      rw [tokensOf, lexemesOf, Cursor.lexemes_of_lexeme hnext, List.map_cons] at hnil
      cases hnil
    | failed e after =>
      rw [lexemesOf, Cursor.lexemes_of_failed hnext] at hwhole
      cases hwhole

/-- **The tree of a text goes by its tokens.**  Two texts that can be read to their ends, and have the same
tokens, stand for the same tree, or are refused for the same reason. -/
theorem parse_unplaced {text text' : String} (hwhole : (lexemesOf text).failure = none)
    (hwhole' : (lexemesOf text').failure = none) (htokens : tokensOf text = tokensOf text') :
    (parse text).mapError ParseError.unplaced = (parse text').mapError ParseError.unplaced := by
  have hblank : isBlankText text = isBlankText text' := by
    rw [Bool.eq_iff_iff, isBlankText_iff hwhole, isBlankText_iff hwhole', htokens]
  have hlike : Lexemes.Like (lexemesOf text) (lexemesOf text') :=
    ⟨htokens, by rw [hwhole, hwhole']⟩
  rw [parse, parse, hblank]
  split
  · rfl
  · exact hlike.parseLexemes

end ExprLang
