import ExprLang.Proofs.Parser.Language
import ExprLang.Proofs.Parser.Stuck

/-!
# Reading looks one token ahead

Two texts may have the same tokens up to a place, apart from what their literals hold, and tokens of the
same shape at that place.  Whatever stands behind, they are read alike: as long as the token at the
place is not consumed, the two runs of a reader do the same, and where it is refused in one of them it
is refused in the other.

Together with what is known of phrases this tells which beginnings are not viable.  A token that is
refused in one text would be refused in every other one that begins alike, but a sentence is read.

## Main definitions

* `Twins src src' tail tail'` — two texts and what they have from the place on.
* `Abreast tail tail'`, `Past tail` — the states of two runs before the place, and behind it.
* `Alike tail tail' p p'` — two readers do the same up to the place.

## Main results

* `wholeExpression_alike` — whole expressions are read alike.
* `not_sentence_of_marks` — no sentence begins like a text up to the token that is refused.
-/

namespace ExprLang

/-! ### Tokens of one shape -/

/-- The token is told by its shape: it is no literal that may hold this or that. -/
def Token.Fixed (u : Token) : Prop := (∀ digits, u ≠ .decimal digits) ∧ ∀ body, u ≠ .string body

theorem Token.Fixed.shape_eq_iff {t u : Token} (h : u.Fixed) : t.shape = u ↔ t = u := by
  obtain ⟨hdecimal, hstring⟩ := h
  cases t with
  | decimal digits => exact ⟨fun h => absurd h.symm (hdecimal _), fun h => absurd h.symm (hdecimal _)⟩
  | string body => exact ⟨fun h => absurd h.symm (hstring _), fun h => absurd h.symm (hstring _)⟩
  | _ => rfl

/-- Whether the next token is a fixed one is seen from its shape. -/
theorem Token.Fixed.map_shape_iff {t? : Option Token} {u : Token} (h : u.Fixed) :
    t?.map Token.shape = some u ↔ t? = some u := by
  simp [h.shape_eq_iff]

/-! ### Two runs -/

/-- Two texts, and what they have from a place on: tokens of one shape come next. -/
structure Twins (src src' : Lexemes) (tail tail' : List Lexeme) : Prop where
  lexical : src.Lexical
  whole : src'.failure = none
  head : tail'.head?.map Lexeme.token = tail.head?.map fun l => l.token.shape
  /-- Where a lexeme stands tells which one it is. -/
  distinct : ∀ l rest, tail = l :: rest → ∀ m ∈ rest, m.start ≠ l.start

/-- Tokens of the same shapes lie between the states and the place. -/
def Abreast (tail tail' : List Lexeme) (s s' : ParserState) : Prop :=
  ∃ ls ls', s.ahead = ls ++ tail ∧ s'.ahead = ls' ++ tail' ∧
    ls'.map Lexeme.token = ls.map (fun l => l.token.shape) ∧ s'.depth = s.depth

/-- The token at the place was consumed. -/
def Past (tail : List Lexeme) (s : ParserState) : Prop :=
  ∃ l rest, tail = l :: rest ∧ s.ahead <:+ rest

/-- The reader stops because of the token, or the end, at the place. -/
def RefusesAt (tail : List Lexeme) (stop : Stop) : Prop := ∃ e, stop = .error e ∧ e.Marks tail

/-- The reader stops because of some token, or of the end. -/
def Refuses (stop : Stop) (_ : ParserState) : Prop := ∃ e, stop = .error e ∧ e.IsUnexpected

/-- The run of `p` from `s` and that of `p'` from `s'` do the same up to the place. -/
def RunsAlike (tail tail' : List Lexeme) {α α' : Type} (p : Parser α) (p' : Parser α')
    (s s' : ParserState) : Prop :=
  Ensures p
    (fun _ s₁ => Past tail s₁ ∨
      Ensures p' (fun _ s₁' => Abreast tail tail' s₁ s₁') (fun _ _ => False) s')
    (fun stop _ => RefusesAt tail stop → Ensures p' (fun _ _ => False) Refuses s') s

/-- Up to the place the readers do the same, and behind it the first does not come back to it. -/
structure Alike (tail tail' : List Lexeme) {α α' : Type} (p : Parser α) (p' : Parser α') : Prop where
  before : ∀ s s', Abreast tail tail' s s' → RunsAlike tail tail' p p' s s'
  behind : ∀ s, Past tail s →
    Ensures p (fun _ => Past tail) (fun stop _ => ¬ RefusesAt tail stop) s

section

variable {src src' : Lexemes} {tail tail' : List Lexeme} {α α' β β' : Type} {s s' : ParserState}

/-! ### The next lexeme -/

theorem Abreast.ahead (htwins : Twins src src' tail tail') (h : Abreast tail tail' s s') :
    s.ahead = [] ∧ s'.ahead = [] ∨ ∃ l rest l' rest', s.ahead = l :: rest ∧ s'.ahead = l' :: rest' ∧
      l'.token = l.token.shape ∧
      (Past tail { s with ahead := rest } ∨
        Abreast tail tail' { s with ahead := rest } { s' with ahead := rest' }) := by
  obtain ⟨ls, ls', hs, hs', hmap, hdepth⟩ := h
  -- either the two texts still share what they have read, or they are at their tails
  cases ls with
  | cons l ls =>
    obtain ⟨l', ls'', rfl, htoken, hrest⟩ := List.map_eq_cons_iff.mp hmap
    exact .inr ⟨l, ls ++ tail, l', ls'' ++ tail', hs, hs', htoken, .inr ⟨ls, ls'', rfl, rfl, hrest, hdepth⟩⟩
  | nil =>
    obtain rfl := List.map_eq_nil_iff.mp hmap
    have hhead := htwins.head
    cases tail with
    | nil =>
      cases tail' with
      | nil => exact .inl ⟨hs, hs'⟩
      | cons l' rest' => cases hhead
    | cons l rest =>
      cases tail' with
      | nil => cases hhead
      | cons l' rest' =>
        have htoken : l'.token = l.token.shape := by simpa using hhead
        exact .inr ⟨l, rest, l', rest', hs, hs', htoken, .inl ⟨l, rest, rfl, List.suffix_rfl⟩⟩

theorem Abreast.tokens_head? (htwins : Twins src src' tail tail') (h : Abreast tail tail' s s') :
    s'.tokens.head? = s.tokens.head?.map Token.shape := by
  rcases h.ahead htwins with ⟨hs, hs'⟩ | ⟨l, rest, l', rest', hs, hs', htoken, -⟩
  · simp [ParserState.tokens, hs, hs']
  · simp [ParserState.tokens, hs, hs', htoken]

theorem Past.of_suffix {s₁ : ParserState} (h : Past tail s) (hs : s₁.ahead <:+ s.ahead) :
    Past tail s₁ := by
  obtain ⟨l, rest, htail, hrest⟩ := h
  exact ⟨l, rest, htail, hs.trans hrest⟩

/-- Behind the place no error is about it. -/
theorem Past.not_marks_head (htwins : Twins src src' tail tail') (h : Past tail s) {m : Lexeme}
    (hm : m ∈ s.ahead) (t : Token) (expected : Expectation) :
    ¬ (ParseError.unexpectedToken t expected m.start).Marks tail := by
  obtain ⟨l, rest, rfl, hrest⟩ := h
  rintro ⟨expected', heq⟩
  exact htwins.distinct l rest rfl m (hrest.subset hm) (ParseError.unexpectedToken.inj heq).2.2

theorem Past.not_marks_end (h : Past tail s) (expected : Expectation) :
    ¬ (ParseError.unexpectedEnd expected).Marks tail := by
  obtain ⟨l, rest, rfl, -⟩ := h
  rintro ⟨expected', heq⟩
  cases heq

theorem not_refusesAt_of_not_isUnexpected {e : ParseError} (h : ¬ e.IsUnexpected) :
    ¬ RefusesAt tail (.error e) := by
  rintro ⟨e', heq, hmarks⟩
  cases heq
  exact h hmarks.isUnexpected

/-! ### Putting readers together -/

theorem alike_pure (a : α) (a' : α') : Alike tail tail' (pure a) (pure a') where
  before _ _ h := .inr h
  behind _ h := h

theorem alike_throw {stop : Stop} (h : ¬ RefusesAt tail stop) (p' : Parser α') :
    Alike tail tail' (throw stop : Parser α) p' where
  before _ _ _ hrefuses := absurd hrefuses h
  behind _ _ := h

theorem alike_bind [Nonempty α'] {p : Parser α} {p' : Parser α'} {f : α → Parser β}
    {f' : α' → Parser β'} (hp : Alike tail tail' p p')
    (hf : ∀ a a', Alike tail tail' (f a) (f' a')) : Alike tail tail' (p >>= f) (p' >>= f') where
  before s s' h := by
    obtain ⟨a₀⟩ := ‹Nonempty α'›
    rw [RunsAlike, ensures_bind]
    refine (hp.before s s' h).mono ?_ fun stop _ hstop hrefuses => ?_
    · rintro a s₁ (hpast | habreast)
      · exact ((hf a a₀).behind s₁ hpast).mono (fun _ _ h => .inl h) fun _ _ h hrefuses => absurd hrefuses h
      · -- the second reader goes on from where its first part ended
        unfold Ensures at habreast
        cases hrun : p' s' with
        | error stop s₁' =>
          rw [hrun] at habreast
          exact habreast.elim
        | ok a' s₁' =>
          rw [hrun] at habreast
          have hbind : ∀ {Q E}, Ensures (p' >>= f') Q E s' ↔ Ensures (f' a') Q E s₁' := by
            intro Q E
            rw [ensures_bind, Ensures, hrun]
          simp only [hbind]
          exact (hf a a').before s₁ s₁' habreast
    · rw [ensures_bind]
      exact (hstop hrefuses).mono (fun _ _ h => h.elim) fun _ _ h => h
  behind s h := by
    obtain ⟨a₀⟩ := ‹Nonempty α'›
    rw [ensures_bind]
    exact (hp.behind s h).mono (fun a s₁ h₁ => (hf a a₀).behind s₁ h₁) fun _ _ h => h

theorem alike_ite {u : Token} (hu : u.Fixed) {t? : Option Token} {p q : Parser α} {p' q' : Parser α'}
    (hp : Alike tail tail' p p') (hq : Alike tail tail' q q') :
    Alike tail tail' (if t? = some u then p else q)
      (if t?.map Token.shape = some u then p' else q') := by
  by_cases h : t? = some u
  · rw [if_pos h, if_pos (hu.map_shape_iff.mpr h)]
    exact hp
  · rw [if_neg h, if_neg (mt hu.map_shape_iff.mp h)]
    exact hq

theorem alike_nested {p : Parser α} {p' : Parser α'} (hp : Alike tail tail' p p') :
    Alike tail tail' (nested src p) (nested src' p') where
  before s s' h := by
    obtain ⟨ls, ls', hs, hs', hmap, hdepth⟩ := h
    refine ensures_nested (fun hlt => ?_) fun _ position hrefuses =>
      absurd hrefuses (not_refusesAt_of_not_isUnexpected id)
    -- both texts have opened the same number of levels, so neither is refused alone
    have hlt' : s'.depth < maxDepth := hdepth ▸ hlt
    have hopened : Abreast tail tail' s.opened s'.opened :=
      ⟨ls, ls', hs, hs', hmap, congrArg (· + 1) hdepth⟩
    refine (hp.before _ _ hopened).mono ?_ fun stop s₁ hstop hrefuses => ?_
    · rintro a s₁ (hpast | habreast)
      · exact .inl hpast
      · refine .inr (ensures_nested (fun _ => habreast.mono ?_ fun _ _ h => h) fun h => absurd hlt' h)
        rintro a' s₁' ⟨ms, ms', hm, hm', hmap', hdepth'⟩
        exact ⟨ms, ms', hm, hm', hmap', congrArg (· - 1) hdepth'⟩
    · exact ensures_nested (fun _ => (hstop hrefuses).mono (fun _ _ h => h) fun _ _ h => h)
        fun h => absurd hlt' h
  behind s h := by
    refine ensures_nested (fun _ => ?_) fun _ _ => not_refusesAt_of_not_isUnexpected id
    exact (hp.behind s.opened h).mono (fun _ _ h => h) fun _ _ h => h

variable (htwins : Twins src src' tail tail')
include htwins

/-- What is read next may depend on the token in view. -/
theorem alike_peek {f : Option Token → Parser α} {f' : Option Token → Parser α'}
    (h : ∀ t?, Alike tail tail' (f t?) (f' (t?.map Token.shape))) :
    Alike tail tail' (peek >>= f) (peek >>= f') where
  before s s' habreast := by
    have hrun : ∀ {Q E}, Ensures (peek >>= f') Q E s' ↔
        Ensures (f' (s.tokens.head?.map Token.shape)) Q E s' := by
      intro Q E
      rw [ensures_bind, ensures_peek, habreast.tokens_head? htwins]
    rw [RunsAlike, ensures_bind, ensures_peek]
    simp only [hrun]
    exact (h _).before s s' habreast
  behind s hpast := by
    rw [ensures_bind, ensures_peek]
    exact (h _).behind s hpast

/-- Or on whether this is a certain one. -/
theorem alike_peek_ite {u : Token} (hu : u.Fixed) {p q : Parser α} {p' q' : Parser α'}
    (hp : Alike tail tail' p p') (hq : Alike tail tail' q q') :
    Alike tail tail' (do if (← peek) = some u then p else q)
      (do if (← peek) = some u then p' else q') :=
  alike_peek htwins fun _ => alike_ite hu hp hq

/-! ### Single tokens -/

theorem alike_advance : Alike tail tail' (advance src) (advance src') where
  before s s' h := by
    -- the first text may end in a lexical error, which is no refusal of the token there
    have hlexical : ∀ e, src.failure = some e → ¬ RefusesAt tail (.error e) := fun e he =>
      not_refusesAt_of_not_isUnexpected (htwins.lexical e he)
    rcases h.ahead htwins with ⟨hs, hs'⟩ | ⟨l, rest, l', rest', hs, hs', -, hnext⟩
    · have hrun : advance src s = .ok () s := by simp only [advance, hs]
      have hrun' : advance src' s' = .ok () s' := by simp only [advance, hs']
      simp only [RunsAlike, Ensures, hrun, hrun']
      exact .inr h
    · refine ensures_advance hs (fun _ => ?_) fun e _ he hrefuses => absurd hrefuses (hlexical e he)
      refine hnext.imp id fun habreast => ensures_advance hs' (fun _ => habreast) fun e _ he => ?_
      rw [htwins.whole] at he
      cases he
  behind s h := by
    cases hs : s.ahead with
    | nil =>
      have hrun : advance src s = .ok () s := by simp only [advance, hs]
      simpa only [Ensures, hrun] using h
    | cons l rest =>
      refine ensures_advance hs (fun _ => h.of_suffix ?_) fun e _ he =>
        not_refusesAt_of_not_isUnexpected (htwins.lexical e he)
      rw [hs]
      exact List.suffix_cons l rest

theorem alike_unexpected (expected expected' : Expectation) :
    Alike tail tail' (unexpected expected : Parser α) (unexpected expected' : Parser α') where
  before s s' _ := by
    have hrefuses : Ensures (unexpected expected' : Parser α') (fun _ _ => False) Refuses s' :=
      ensures_unexpected (fun _ => ⟨_, rfl, trivial⟩) fun _ _ _ => ⟨_, rfl, trivial⟩
    exact ensures_unexpected (fun _ _ => hrefuses) fun _ _ _ _ => hrefuses
  behind s h := by
    refine ensures_unexpected (fun _ => ?_) fun l rest hs => ?_
    · rintro ⟨e, heq, hmarks⟩
      cases heq
      exact h.not_marks_end expected hmarks
    · rintro ⟨e, heq, hmarks⟩
      cases heq
      exact h.not_marks_head htwins (by simp [hs]) _ _ hmarks

theorem alike_expect {t : Token} (ht : t.Fixed) : Alike tail tail' (expect src t) (expect src' t) :=
  alike_peek_ite htwins ht (alike_advance htwins) (alike_unexpected htwins _ _)

theorem alike_memberName : Alike tail tail' (memberName src) (memberName src') := by
  refine alike_peek htwins fun t? => ?_
  have hunexpected : Alike tail tail' (unexpected .memberName : Parser String)
      (unexpected .memberName : Parser String) := alike_unexpected htwins _ _
  rcases t? with _ | t
  · exact hunexpected
  · cases t with
    | identifier name => exact alike_bind (alike_advance htwins) fun _ _ => alike_pure _ _
    | _ => exact hunexpected

end

/-! ### The readers -/

/-- The seven readers read alike with some fuel.  The loops may have different trees in hand. -/
structure ReadsAlike (src src' : Lexemes) (tail tail' : List Lexeme) (fuel : Nat) : Prop where
  expression : ∀ least, Alike tail tail' (expression src fuel least) (expression src' fuel least)
  operators : ∀ least left left',
    Alike tail tail' (operators src fuel least left) (operators src' fuel least left')
  unary : Alike tail tail' (unary src fuel) (unary src' fuel)
  primary : Alike tail tail' (primary src fuel) (primary src' fuel)
  elements : ∀ {closer : Token}, closer.Fixed →
    Alike tail tail' (elements src fuel closer) (elements src' fuel closer)
  moreElements : ∀ {closer : Token}, closer.Fixed →
    Alike tail tail' (moreElements src fuel closer) (moreElements src' fuel closer)
  members : ∀ base base',
    Alike tail tail' (members src fuel base) (members src' fuel base')

instance : Nonempty Expr := ⟨.literal .null⟩

variable {src src' : Lexemes} {tail tail' : List Lexeme} {fuel : Nat} {s s' : ParserState}

theorem alike_outOfFuel {α α' : Type} (p' : Parser α') :
    Alike tail tail' (throw .outOfFuel : Parser α) p' :=
  alike_throw (by rintro ⟨e, heq, -⟩; cases heq) p'

theorem readsAlike_zero : ReadsAlike src src' tail tail' 0 where
  expression least := by
    rw [expression]
    exact alike_outOfFuel _
  operators least left left' := by
    rw [operators]
    exact alike_outOfFuel _
  unary := by
    rw [unary]
    exact alike_outOfFuel _
  primary := by
    rw [primary]
    exact alike_outOfFuel _
  elements _ := by
    rw [elements]
    exact alike_outOfFuel _
  moreElements _ := by
    rw [moreElements]
    exact alike_outOfFuel _
  members base base' := by
    rw [members]
    exact alike_outOfFuel _

section

variable (ih : ReadsAlike src src' tail tail' fuel)
include ih

theorem expression_alike (least : Precedence) : Alike tail tail' (expression src (fuel + 1) least)
    (expression src' (fuel + 1) least) := by
  rw [expression, expression]
  exact alike_nested (alike_bind ih.unary fun left left' => ih.operators least left left')

variable (htwins : Twins src src' tail tail')
include htwins

theorem operators_alike (least : Precedence) (left left' : Expr) :
    Alike tail tail' (operators src (fuel + 1) least left) (operators src' (fuel + 1) least left') := by
  rw [operators, operators]
  refine alike_peek htwins fun t? => ?_
  rcases t? with _ | t
  · exact alike_pure _ _
  · -- the shapes of both next tokens are one, so the same operator follows on both sides
    cases t with
    | question =>
      simp only [Option.map_some, Token.shape]
      split
      · refine alike_bind (alike_advance htwins) fun _ _ => alike_nested ?_
        refine alike_bind (ih.expression _) fun t t' => ?_
        refine alike_bind (alike_expect htwins (by simp [Token.Fixed])) fun _ _ => ?_
        exact alike_bind (ih.expression _) fun f f' => ih.operators _ _ _
      · exact alike_pure _ _
    | elvis =>
      simp only [Option.map_some, Token.shape]
      split
      · refine alike_bind (alike_advance htwins) fun _ _ => alike_nested ?_
        exact alike_bind (ih.expression _) fun f f' => ih.operators _ _ _
      · exact alike_pure _ _
    | operator op =>
      simp only [Option.map_some, Token.shape]
      split
      · refine alike_bind (alike_advance htwins) fun _ _ => alike_nested ?_
        exact alike_bind (ih.expression _) fun r r' => ih.operators _ _ _
      · exact alike_pure _ _
    | _ => exact alike_pure _ _

theorem unary_alike : Alike tail tail' (unary src (fuel + 1)) (unary src' (fuel + 1)) := by
  rw [unary, unary]
  have hprefix : ∀ op, Alike tail tail'
      (do advance src; return Expr.unary op (← nested src (unary src fuel)))
      (do advance src'; return Expr.unary op (← nested src' (unary src' fuel))) := fun op =>
    alike_bind (alike_advance htwins) fun _ _ =>
      alike_bind (alike_nested ih.unary) fun _ _ => alike_pure _ _
  have hoperand : Alike tail tail' (do members src fuel (← primary src fuel))
      (do members src' fuel (← primary src' fuel)) :=
    alike_bind ih.primary fun base base' => ih.members base base'
  refine alike_peek htwins fun t? => ?_
  rcases t? with _ | t
  · exact hoperand
  · cases t with
    | operator op =>
      cases op with
      | subtract => exact hprefix .negate
      | _ => exact hoperand
    | not => exact hprefix .not
    | _ => exact hoperand

theorem elements_alike {closer : Token} (hcloser : closer.Fixed) :
    Alike tail tail' (elements src (fuel + 1) closer) (elements src' (fuel + 1) closer) := by
  rw [elements, elements]
  exact alike_peek_ite htwins hcloser
    (alike_bind (alike_advance htwins) fun _ _ => alike_pure _ _) (ih.moreElements hcloser)

theorem moreElements_alike {closer : Token} (hcloser : closer.Fixed) :
    Alike tail tail' (moreElements src (fuel + 1) closer) (moreElements src' (fuel + 1) closer) := by
  rw [moreElements, moreElements]
  refine alike_bind (ih.expression _) fun e e' => alike_peek htwins fun t? => ?_
  refine alike_ite (by simp [Token.Fixed]) ?_ (alike_ite hcloser ?_ (alike_unexpected htwins _ _))
  · refine alike_bind (alike_advance htwins) fun _ _ => ?_
    exact alike_bind (ih.moreElements hcloser) fun _ _ => alike_pure _ _
  · exact alike_bind (alike_advance htwins) fun _ _ => alike_pure _ _

theorem members_alike (base base' : Expr) :
    Alike tail tail' (members src (fuel + 1) base) (members src' (fuel + 1) base') := by
  rw [members, members]
  refine alike_peek htwins fun t? => ?_
  have hdot : Token.dot.Fixed := by simp [Token.Fixed]
  have hsafeDot : Token.safeDot.Fixed := by simp [Token.Fixed]
  -- the two dots are their own shapes, so both texts go the same way
  have hnext : t?.map Token.shape = some .dot ∨ t?.map Token.shape = some .safeDot ↔
      t? = some .dot ∨ t? = some .safeDot := or_congr hdot.map_shape_iff hsafeDot.map_shape_iff
  by_cases hmember : t? = some .dot ∨ t? = some .safeDot
  · rw [if_pos hmember, if_pos (hnext.mpr hmember)]
    refine alike_bind (alike_advance htwins) fun _ _ => alike_nested ?_
    refine alike_bind (alike_memberName htwins) fun name name' => ?_
    refine alike_peek_ite htwins (by simp [Token.Fixed]) ?_ (ih.members _ _)
    refine alike_bind (alike_advance htwins) fun _ _ => ?_
    exact alike_bind (ih.elements (by simp [Token.Fixed])) fun _ _ => ih.members _ _
  · rw [if_neg hmember, if_neg (mt hnext.mp hmember)]
    refine alike_ite (by simp [Token.Fixed]) ?_ (alike_pure _ _)
    refine alike_bind (alike_advance htwins) fun _ _ => alike_nested ?_
    refine alike_bind (ih.expression _) fun _ _ => ?_
    exact alike_bind (alike_expect htwins (by simp [Token.Fixed])) fun _ _ => ih.members _ _

end

/-! ### Operands

The reader of operands consumes the token before it looks at it, also where it refuses it. -/

/-- What `primary` does where the lexeme comes next. -/
def operandFrom (src : Lexemes) (fuel : Nat) (l : Lexeme) : Parser Expr := do
  advance src
  match atom? l, l.token with
  | some (.ok e), _ => pure e
  | some (.error e), _ => throw (.error e)
  | none, .leftParen =>
    let e ← expression src fuel .ternary
    expect src .rightParen
    pure e
  | none, .leftBrace => return .list (← elements src fuel .rightBrace)
  | none, t => throw (.error (.unexpectedToken t .operand l.start))

/-- What it does where the lexeme is no operand. -/
def refuseOperand (src : Lexemes) (l : Lexeme) : Parser Expr := do
  advance src
  throw (.error (.unexpectedToken l.token .operand l.start))

theorem ensures_primary {Q : Expr → ParserState → Prop} {E : Stop → ParserState → Prop} {l : Lexeme}
    {rest : List Lexeme} (hs : s.ahead = l :: rest) :
    Ensures (primary src (fuel + 1)) Q E s ↔ Ensures (operandFrom src fuel l) Q E s := by
  simp only [primary, Parser.plain]
  rw [ensures_bind, ensures_ahead]
  simp only [hs]
  rfl

theorem ensures_primary_end {Q : Expr → ParserState → Prop} {E : Stop → ParserState → Prop}
    (hs : s.ahead = []) :
    Ensures (primary src (fuel + 1)) Q E s ↔ Ensures (unexpected .operand) Q E s := by
  simp only [primary, Parser.plain]
  rw [ensures_bind, ensures_ahead]
  simp only [hs]

section

variable (ih : ReadsAlike src src' tail tail' fuel) (htwins : Twins src src' tail tail')
include ih htwins

omit ih in
theorem operandFrom_alike_of_literal {l l' : Lexeme} {r : Except ParseError Expr}
    (hl : atom? l = some r) (hl' : ∃ e, Atom l'.token e) :
    Alike tail tail' (operandFrom src fuel l) (operandFrom src' fuel l') := by
  obtain ⟨e', he'⟩ := hl'
  simp only [operandFrom, hl, atom?_eq_some_iff.mpr he']
  refine alike_bind (alike_advance htwins) fun _ _ => ?_
  cases r with
  | ok e => exact alike_pure _ _
  | error e => exact alike_throw (not_refusesAt_of_not_isUnexpected (not_isUnexpected_of_atom? hl)) _

/-- Lexemes of one shape are read alike as operands, or refused both. -/
theorem operandFrom_alike {l l' : Lexeme} (h : l'.token = l.token.shape) :
    Alike tail tail' (operandFrom src fuel l) (operandFrom src' fuel l') ∨
      operandFrom src fuel l = refuseOperand src l ∧
        operandFrom src' fuel l' = refuseOperand src' l' := by
  obtain ⟨t, start, stop⟩ := l
  obtain ⟨t', start', stop'⟩ := l'
  obtain rfl : t' = t.shape := h
  -- every token that starts an operand is read alike; any other is refused in both texts
  cases t with
  | decimal digits => exact .inl (operandFrom_alike_of_literal htwins rfl (atom_shape_decimal digits))
  | string body => exact .inl (operandFrom_alike_of_literal htwins rfl (atom_shape_string body))
  | integer | boolean | null | identifier | binding | component =>
    exact .inl (operandFrom_alike_of_literal htwins rfl ⟨_, by constructor⟩)
  | leftParen =>
    refine .inl (alike_bind (alike_advance htwins) fun _ _ => ?_)
    refine alike_bind (ih.expression _) fun _ _ => ?_
    exact alike_bind (alike_expect htwins (by simp [Token.Fixed])) fun _ _ => alike_pure _ _
  | leftBrace =>
    refine .inl (alike_bind (alike_advance htwins) fun _ _ => ?_)
    exact alike_bind (ih.elements (by simp [Token.Fixed])) fun _ _ => alike_pure _ _
  | _ => exact .inr ⟨rfl, rfl⟩

omit ih in
/-- A text that is read to its end stops at the token that is refused. -/
theorem ensures_refuseOperand {l : Lexeme} {rest : List Lexeme} (hs : s.ahead = l :: rest) :
    Ensures (refuseOperand src' l) (fun _ _ => False) Refuses s := by
  rw [refuseOperand, ensures_bind]
  refine ensures_advance hs (fun _ => ⟨_, rfl, trivial⟩) fun e _ he => ?_
  rw [htwins.whole] at he
  cases he

omit ih in
theorem refuseOperand_behind (h : Past tail s) {l : Lexeme} {rest : List Lexeme}
    (hs : s.ahead = l :: rest) :
    Ensures (refuseOperand src l) (fun _ => Past tail) (fun stop _ => ¬ RefusesAt tail stop) s := by
  rw [refuseOperand, ensures_bind]
  refine ((alike_advance htwins).behind s h).imp fun _ s₁ _ => ?_
  rintro ⟨e, heq, hmarks⟩
  cases heq
  exact h.not_marks_head htwins (by simp [hs]) _ _ hmarks

theorem primary_alike : Alike tail tail' (primary src (fuel + 1)) (primary src' (fuel + 1)) where
  before s s' h := by
    rcases h.ahead htwins with ⟨hs, hs'⟩ | ⟨l, rest, l', rest', hs, hs', htoken, -⟩
    · simp only [RunsAlike, ensures_primary_end hs, ensures_primary_end hs']
      exact (alike_unexpected htwins _ _).before s s' h
    · simp only [RunsAlike, ensures_primary hs, ensures_primary hs']
      -- past the operand's first token nothing more is seen of the tail
      rcases operandFrom_alike ih htwins htoken with hsame | ⟨hl, hl'⟩
      · exact hsame.before s s' h
      · rw [hl, hl', refuseOperand, ensures_bind]
        exact ((alike_advance htwins).before s s' h).mono
          (fun _ _ _ _ => ensures_refuseOperand htwins hs')
          fun _ _ _ _ => ensures_refuseOperand htwins hs'
  behind s h := by
    cases hs : s.ahead with
    | nil =>
      rw [ensures_primary_end hs]
      have hend : Alike tail tail' (unexpected .operand : Parser Expr) (unexpected .operand : Parser Expr) :=
        alike_unexpected htwins _ _
      exact hend.behind s h
    | cons l rest =>
      rw [ensures_primary hs]
      have hshape : ({ l with token := l.token.shape } : Lexeme).token = l.token.shape := rfl
      rcases operandFrom_alike ih htwins hshape with hsame | ⟨hl, -⟩
      · exact hsame.behind s h
      · rw [hl]
        exact refuseOperand_behind htwins h hs

end

theorem readsAlike (htwins : Twins src src' tail tail') :
    ∀ fuel, ReadsAlike src src' tail tail' fuel
  | 0 => readsAlike_zero
  | fuel + 1 =>
    have ih := readsAlike htwins fuel
    ⟨expression_alike ih, operators_alike ih htwins, unary_alike ih htwins,
      primary_alike ih htwins, elements_alike ih htwins, moreElements_alike ih htwins,
      members_alike ih htwins⟩

/-! ### Whole expressions -/

theorem alike_end (htwins : Twins src src' tail tail') (e e' : Expr) :
    Alike tail tail'
      (do match ← ahead with
          | [] => pure e
          | _ => unexpected .endOfExpression)
      (do match ← ahead with
          | [] => pure e'
          | _ => unexpected .endOfExpression) where
  before s s' h := by
    rw [RunsAlike, ensures_bind, ensures_ahead]
    simp only [ensures_bind, ensures_ahead]
    rcases h.ahead htwins with ⟨hs, hs'⟩ | ⟨l, rest, l', rest', hs, hs', -, -⟩
    · simp only [hs, hs']
      exact .inr h
    · simp only [hs, hs']
      exact (alike_unexpected htwins _ _).before s s' h
  behind s h := by
    rw [ensures_bind, ensures_ahead]
    split
    · exact h
    · have hend : Alike tail tail' (unexpected .endOfExpression : Parser Expr)
          (unexpected .endOfExpression : Parser Expr) := alike_unexpected htwins _ _
      exact hend.behind s h

/-- Whole expressions are read alike. -/
theorem wholeExpression_alike (htwins : Twins src src' tail tail') (fuel : Nat) :
    Alike tail tail' (wholeExpression src fuel) (wholeExpression src' fuel) := by
  simp only [wholeExpression, Parser.plain]
  exact alike_bind ((readsAlike htwins fuel).expression .ternary) fun e e' => alike_end htwins e e'

/-- The tokens as a text of their own, without room between them and with other literals. -/
def bareText (ts : List Token) : Lexemes := ⟨ts.map fun t => ⟨t.shape, 0, 0⟩, none, 0⟩

theorem ensures_bareText {ts : List Token} (h : Sentence (ts.map Token.shape)) (fuel : Nat) :
    Ensures (wholeExpression (bareText ts) fuel) (fun _ _ => True) (Excused (bareText ts))
      ⟨(bareText ts).lexemes, 0⟩ := by
  obtain ⟨e, he⟩ := h
  have htokens : (bareText ts).lexemes.map Lexeme.token = ts.map Token.shape := by simp [bareText]
  exact (wholeExpression_complete (htokens ▸ he) fuel).imp fun _ _ _ => trivial

/-- Where reading a text stops because of a token, or of the end, the tokens before it do not go on
with it to a sentence, nor would they with other literals. -/
theorem not_sentence_of_marks {e : ParseError} {before after : List Lexeme} {ts : List Token}
    (hsrc : src.Lexical) (hstarts : after.Pairwise fun l m => m.start ≠ l.start)
    (hrun : (wholeExpression src fuel : Parser Expr) ⟨src.lexemes, 0⟩ = .error (.error e) s)
    (hsplit : src.lexemes = before ++ after) (hmarks : e.Marks after)
    (hts : ts.head? = after.head?.map Lexeme.token) :
    ¬ Sentence ((before.map Lexeme.token ++ ts).map Token.shape) := by
  intro hsentence
  have hread := ensures_bareText hsentence fuel
  -- as a text of their own the tokens would be read like the text, up to the mark
  generalize hsrc' : bareText (before.map Lexeme.token ++ ts) = src' at hread
  have htwins : Twins src src' after (bareText ts).lexemes := by
    refine ⟨hsrc, by rw [← hsrc']; rfl, ?_, ?_⟩
    · simp only [bareText, List.head?_map, hts, Option.map_map]
      rfl
    · rintro l rest rfl
      exact (List.pairwise_cons.mp hstarts).1
  have habreast : Abreast after (bareText ts).lexemes ⟨src.lexemes, 0⟩ ⟨src'.lexemes, 0⟩ :=
    ⟨before, (bareText (before.map Lexeme.token)).lexemes, hsplit, by simp [← hsrc', bareText],
      by simp [bareText], rfl⟩
  have hsame := (wholeExpression_alike htwins fuel).before _ _ habreast
  rw [RunsAlike, Ensures, hrun] at hsame
  -- so they are refused where the text is, which a sentence is not
  have hrefused := (hsame ⟨e, rfl, hmarks⟩).and hread
  unfold Ensures at hrefused
  split at hrefused
  · exact hrefused.1
  · obtain ⟨⟨e', rfl, hunexpected⟩, hexcused⟩ := hrefused
    rcases hexcused with ⟨limit, position, rfl⟩ | hfailure
    · exact hunexpected
    · rw [htwins.whole] at hfailure
      cases hfailure

end ExprLang
