import ExprLang.Proofs.Parser.Progress
import ExprLang.Proofs.Parser.Soundness
import ExprLang.Proofs.Viable

/-!
# What is read before an error can be completed

Where a reader stops because of a token, or of the end, that cannot stand there, the tokens that it has
consumed are the beginning of a phrase of its level.  The readers of chains are given what the chain
begins with, and for them that is a part of the beginning.

So reading never goes on behind a mistake.

## Main definitions

* `ParseError.Marks` — the error is about the first of some lexemes, or about the end.
* `Passes src s ts s'` — the tokens `ts` are consumed between two states.
* `StuckBehind src P s` — the endings of a reader at a token behind tokens of which `P` holds.
* `Completable src fuel` — where the seven readers stop with some fuel.

## Main results

* `completable` — the readers consume beginnings of phrases.
* `wholeExpression_stuck` — what is read before an error can be completed.
-/

namespace ExprLang

/-! ### Errors of the grammar -/

namespace ParseError

/-- The error is that a token, or the end, cannot stand where it does. -/
def IsUnexpected : ParseError → Prop
  | unexpectedToken _ _ _ | unexpectedEnd _ => True
  | _ => False

/-- The first of the lexemes cannot stand where it does, or the end cannot if there is none. -/
def Marks (e : ParseError) : List Lexeme → Prop
  | [] => ∃ expected, e = unexpectedEnd expected
  | l :: _ => ∃ expected, e = unexpectedToken l.token expected l.start

theorem Marks.isUnexpected {e : ParseError} {ls : List Lexeme} (h : e.Marks ls) : e.IsUnexpected := by
  cases ls <;> obtain ⟨expected, rfl⟩ := h <;> trivial

end ParseError

/-- The error that ends the tokens of a text, if there is one, is none of the grammar. -/
def Lexemes.Lexical (src : Lexemes) : Prop := ∀ e, src.failure = some e → ¬ e.IsUnexpected

theorem not_isUnexpected_of_atom? {l : Lexeme} {e : ParseError} (h : atom? l = some (.error e)) :
    ¬ e.IsUnexpected := by
  rcases atom?_eq_error h with ⟨digits, -, -, rfl⟩ | ⟨body, escape, -, -, rfl⟩ <;> exact id

/-! ### Where a reader stops -/

/-- Some lexemes were consumed and others are left, which are none only if they came to the end of the
text. -/
def Cut (src : Lexemes) (ls before after : List Lexeme) : Prop :=
  ls = before ++ after ∧ (after = [] → before = [] ∨ src.failure = none)

/-- The tokens are consumed between the states. -/
def Passes (src : Lexemes) (s : ParserState) (ts : List Token) (s' : ParserState) : Prop :=
  ∃ ls, Cut src s.ahead ls s'.ahead ∧ ls.map Lexeme.token = ts

/-- If the reader stops because of a token, or of the end, the property holds of the tokens before. -/
def StuckBehind (src : Lexemes) (P : List Token → Prop) (s : ParserState) :
    Stop → ParserState → Prop
  | .error e, _ => e.IsUnexpected →
    ∃ before after, Cut src s.ahead before after ∧ e.Marks after ∧ P (before.map Lexeme.token)
  | .outOfFuel, _ => True

section

variable {src : Lexemes} {s s₁ s₂ : ParserState} {ts us : List Token} {P P' : List Token → Prop}
  {α : Type} {Q : α → ParserState → Prop}

theorem Cut.append {ls ms before after : List Lexeme} (h : Cut src ls before ms)
    {middle : List Lexeme} (h' : Cut src ms middle after) : Cut src ls (before ++ middle) after := by
  refine ⟨by rw [h.1, h'.1, List.append_assoc], fun hafter => ?_⟩
  rcases h'.2 hafter with rfl | hwhole
  · rw [List.append_nil]
    exact h.2 (by rw [h'.1, hafter]; rfl)
  · exact .inr hwhole

theorem Passes.refl (s : ParserState) : Passes src s [] s := ⟨[], ⟨rfl, fun _ => .inl rfl⟩, rfl⟩

theorem Passes.trans (h₁ : Passes src s ts s₁) (h₂ : Passes src s₁ us s₂) :
    Passes src s (ts ++ us) s₂ := by
  obtain ⟨ls, hls, rfl⟩ := h₁
  obtain ⟨ms, hms, rfl⟩ := h₂
  exact ⟨ls ++ ms, hls.append hms, List.map_append⟩

theorem Consumes.passes (h : Consumes src s s₁) (htokens : s.tokens = ts ++ s₁.tokens) :
    Passes src s ts s₁ := by
  obtain ⟨ls, hls⟩ := h.suffix
  refine ⟨ls, ⟨hls.symm, fun hend => .inr (h.whole hend)⟩, ?_⟩
  rw [ParserState.tokens, ← hls, List.map_append] at htokens
  exact List.append_cancel_right htokens

/-- A part that is stuck behind some tokens is stuck as the whole, behind those before it as well. -/
theorem Ensures.behind {p : Parser α} {R : α → ParserState → Prop}
    (hp : Ensures p R (StuckBehind src P s₁) s₁) (h₁ : Passes src s ts s₁) (hP : ∀ us, P us → P' (ts ++ us))
    (hR : ∀ a s₂, R a s₂ → Q a s₂) : Ensures p Q (StuckBehind src P' s) s₁ := by
  refine hp.mono hR fun e s₂ he => ?_
  cases e with
  | outOfFuel => trivial
  | error e =>
    intro hunexpected
    obtain ⟨before, after, hcut, hmarks, hbefore⟩ := he hunexpected
    obtain ⟨ls, hls, rfl⟩ := h₁
    refine ⟨ls ++ before, after, hls.append hcut, hmarks, ?_⟩
    rw [List.map_append]
    exact hP _ hbefore

/-- What is known of a reader's phrase, its progress and its errors, put together. -/
theorem Ensures.traced {p : Parser α} {R : α → List Token → ParserState → Prop}
    {E : Stop → ParserState → Prop}
    (hsound : Ensures p (fun a s' => ∃ ts, s.tokens = ts ++ s'.tokens ∧ R a ts s') AnyStop s)
    (hprogress : Ensures p (fun _ => Consumes src s) E s)
    (hstuck : Ensures p (fun _ _ => True) (StuckBehind src P s) s) :
    Ensures p (fun a s' => ∃ ts, Passes src s ts s' ∧ R a ts s') (StuckBehind src P s) s := by
  refine ((hsound.and hprogress).and hstuck).mono ?_ fun e s' h => h.2
  rintro a s' ⟨⟨⟨ts, htokens, hR⟩, hconsumes⟩, -⟩
  exact ⟨ts, hconsumes.passes htokens, hR⟩

/-- A part that is stuck at its first token. -/
theorem Ensures.behind_nil {p : Parser α} {R : α → ParserState → Prop}
    (hp : Ensures p R (StuckBehind src (· = []) s₁) s₁) (h₁ : Passes src s ts s₁) (hP : P' ts)
    (hR : ∀ a s₂, R a s₂ → Q a s₂) : Ensures p Q (StuckBehind src P' s) s₁ := by
  refine hp.behind h₁ ?_ hR
  rintro us rfl
  rwa [List.append_nil]

/-! ### Single tokens -/

theorem ensures_nested_stuck {p : Parser α}
    (hp : Ensures p (fun a s₂ => Q a s₂.closed) (StuckBehind src P s) s₁.opened) :
    Ensures (nested src p) Q (StuckBehind src P s) s₁ :=
  ensures_nested (fun _ => hp.mono (fun _ _ h => h) fun e _ he => by cases e <;> exact he)
    fun _ _ hunexpected => hunexpected.elim

variable (hsrc : src.Lexical)
include hsrc

theorem ensures_advance_passes {t : Token} (ht : s.tokens.head? = some t) :
    Ensures (advance src) (fun _ s' => Passes src s [t] s') (StuckBehind src P s) s := by
  cases hs : s.ahead with
  | nil => simp [ParserState.tokens, hs] at ht
  | cons l rest =>
    have hl : l.token = t := by simpa [ParserState.tokens, hs] using ht
    refine ensures_advance hs (fun hwhole => ?_) fun e _ he hunexpected => ?_
    · exact ⟨[l], ⟨hs, fun hend => .inr (hwhole hend)⟩, by rw [← hl]; rfl⟩
    · exact absurd hunexpected (hsrc e he)

omit hsrc in
theorem ensures_unexpected_stuck (expected : Expectation) :
    Ensures (unexpected expected) Q (StuckBehind src (· = []) s) s :=
  ensures_unexpected (fun hs _ => ⟨[], [], ⟨hs, fun _ => .inl rfl⟩, ⟨expected, rfl⟩, rfl⟩)
    fun l rest hs _ => ⟨[], l :: rest, ⟨hs, fun _ => .inl rfl⟩, ⟨expected, rfl⟩, rfl⟩

theorem ensures_expect_passes (t : Token) :
    Ensures (expect src t) (fun _ s' => Passes src s [t] s') (StuckBehind src (· = []) s) s :=
  ensures_expect (ensures_advance_passes hsrc) fun _ => ensures_unexpected_stuck _

theorem ensures_memberName_passes : Ensures (memberName src)
    (fun name s' => Passes src s [.identifier name] s') (StuckBehind src (· = []) s) s :=
  ensures_memberName (fun _ => ensures_advance_passes hsrc) fun _ => ensures_unexpected_stuck _

end

/-! ### The readers -/

/-- Where the readers stop with some fuel. -/
structure Completable (src : Lexemes) (fuel : Nat) : Prop where
  expression : ∀ {least : Precedence} (s : ParserState), least ≠ .member →
    Ensures (expression src fuel least) (fun _ _ => True) (StuckBehind src (Starts least) s) s
  operators : ∀ {least p : Precedence} {ts : List Token} {left : Expr} {s : ParserState},
    Derives p ts left → least.level ≤ p.level → Follows p s.tokens →
    Ensures (operators src fuel least left) (fun _ _ => True)
      (StuckBehind src (fun us => Starts least (ts ++ us)) s) s
  unary : ∀ s, Ensures (unary src fuel) (fun _ _ => True) (StuckBehind src (Starts .unary) s) s
  primary : ∀ s, Ensures (primary src fuel) (fun _ _ => True) (StuckBehind src (Starts .member) s) s
  elements : ∀ closer s,
    Ensures (elements src fuel closer) (fun _ _ => True) (StuckBehind src StartsItems s) s
  moreElements : ∀ closer s,
    Ensures (moreElements src fuel closer) (fun _ _ => True) (StuckBehind src StartsMore s) s
  members : ∀ {ts : List Token} {base : Expr} (s : ParserState), Derives .member ts base →
    Ensures (members src fuel base) (fun _ _ => True)
      (StuckBehind src (fun us => Starts .member (ts ++ us)) s) s

variable {src : Lexemes} {fuel : Nat}

namespace Completable

variable (h : Completable src fuel) (s : ParserState)
include h

theorem expression_traced {least : Precedence} (hleast : least ≠ .member) :
    Ensures (ExprLang.expression src fuel least)
      (fun e s' => ∃ ts, Passes src s ts s' ∧ Derives least ts e ∧ Ends least s'.tokens)
      (StuckBehind src (Starts least) s) s :=
  ((sound src fuel).expression s hleast).traced ((progress src fuel).expression least s)
    (h.expression s hleast)

theorem unary_traced : Ensures (ExprLang.unary src fuel)
    (fun e s' => ∃ ts, Passes src s ts s' ∧ Derives .unary ts e) (StuckBehind src (Starts .unary) s) s :=
  ((sound src fuel).unary s).traced ((progress src fuel).unary s) (h.unary s)

theorem primary_traced : Ensures (ExprLang.primary src fuel)
    (fun e s' => ∃ ts, Passes src s ts s' ∧ Derives .member ts e) (StuckBehind src (Starts .member) s) s :=
  ((sound src fuel).primary s).traced ((progress src fuel).primary s) (h.primary s)

theorem elements_traced (closer : Token) : Ensures (ExprLang.elements src fuel closer)
    (fun es s' => ∃ ts, Passes src s ts s' ∧ ∃ us, ts = us ++ [closer] ∧ DerivesItems us es)
    (StuckBehind src StartsItems s) s := by
  refine (((sound src fuel).elements closer s).imp ?_).traced
    ((progress src fuel).elements closer s) (h.elements closer s)
  rintro es s' ⟨us, htokens, hes⟩
  exact ⟨us ++ [closer], by simpa using htokens, us, rfl, hes⟩

end Completable

theorem completable_zero : Completable src 0 where
  expression s _ := by
    rw [expression]
    trivial
  operators _ _ _ := by
    rw [operators]
    trivial
  unary s := by
    rw [unary]
    trivial
  primary s := by
    rw [primary]
    trivial
  elements closer s := by
    rw [elements]
    trivial
  moreElements closer s := by
    rw [moreElements]
    trivial
  members s _ := by
    rw [members]
    trivial

section

variable (ih : Completable src fuel)
include ih

theorem expression_completable {least : Precedence} (s : ParserState) (hleast : least ≠ .member) :
    Ensures (expression src (fuel + 1) least) (fun _ _ => True) (StuckBehind src (Starts least) s) s := by
  have hle := Precedence.level_le_unary hleast
  simp only [expression, Parser.plain]
  refine ensures_nested_stuck ?_
  rw [ensures_bind]
  refine (ih.unary_traced s.opened).behind (.refl s) (fun us h => h.weaken hle) ?_
  rintro left s₁ ⟨ts, h₁, hleft⟩
  exact (ih.operators hleft hle (follows_unary _)).behind h₁ (fun us h => h) fun _ _ h => h

variable (hsrc : src.Lexical)
include hsrc

theorem operators_completable {least p : Precedence} {ts : List Token} {left : Expr} {s : ParserState}
    (hleft : Derives p ts left) (hle : least.level ≤ p.level) (hp : Follows p s.tokens) :
    Ensures (operators src (fuel + 1) least left) (fun _ _ => True)
      (StuckBehind src (fun us => Starts least (ts ++ us)) s) s := by
  simp only [operators, Parser.plain]
  rw [ensures_bind, ensures_peek]
  split
  case h_1 ht =>
    split
    · next hadmits =>
      obtain rfl := Precedence.admits_ternary hadmits
      have hcondition := hleft.or_of_follows hp ht rfl
      rw [ensures_bind]
      refine (ensures_advance_passes hsrc ht).imp fun _ s₁ h₁ => ensures_nested_stuck ?_
      rw [ensures_bind]
      refine (ih.expression_traced s₁.opened (by simp)).behind h₁ (fun us h => h.thenBranch hcondition) ?_
      rintro whenTrue s₂ ⟨us, h₂, htrue, -⟩
      -- without its colon the conditional ends in its first branch
      rw [ensures_bind]
      refine (ensures_expect_passes hsrc .colon).behind_nil (h₁.trans h₂)
        (htrue.starts.thenBranch hcondition) fun _ s₃ h₃ => ?_
      rw [ensures_bind]
      refine (ih.expression_traced s₃ (by simp)).behind ((h₁.trans h₂).trans h₃)
        (fun vs h => by simpa using h.elseBranch hcondition htrue) ?_
      rintro whenFalse s₄ ⟨vs, h₄, hfalse, hends⟩
      have hconditional := Derives.conditional hcondition htrue hfalse
      exact (ih.operators hconditional (Nat.le_refl _) hends.follows).behind
        (((h₁.trans h₂).trans h₃).trans h₄) (fun ws h => by simpa using h) fun _ _ h => h
    · trivial
  case h_2 ht =>
    split
    · next hadmits =>
      obtain rfl := Precedence.admits_ternary hadmits
      have hvalue := hleft.or_of_follows hp ht rfl
      rw [ensures_bind]
      refine (ensures_advance_passes hsrc ht).imp fun _ s₁ h₁ => ensures_nested_stuck ?_
      rw [ensures_bind]
      refine (ih.expression_traced s₁.opened (by simp)).behind h₁ (fun us h => h.fallback hvalue) ?_
      rintro fallback s₂ ⟨us, h₂, hfallback, hends⟩
      have helvis := Derives.elvis hvalue hfallback
      exact (ih.operators helvis (Nat.le_refl _) hends.follows).behind (h₁.trans h₂)
        (fun ws h => by simpa using h) fun _ _ h => h
    · trivial
  case h_3 op ht =>
    split
    · next hadmits =>
      have hle' := Precedence.admits_iff.mp hadmits
      have hoperand := hleft.left_of_follows hp ht
      rw [ensures_bind]
      refine (ensures_advance_passes hsrc ht).imp fun _ s₁ h₁ => ensures_nested_stuck ?_
      rw [ensures_bind]
      refine (ih.expression_traced s₁.opened op.next_precedence_ne_member).behind h₁
        (fun us h => (h.rightOperand hoperand).weaken hle') ?_
      rintro right s₂ ⟨us, h₂, hright, hends⟩
      have hbinary := Derives.binary op hoperand hright
      exact (ih.operators hbinary hle' hends.follows_of_next).behind (h₁.trans h₂)
        (fun ws h => by simpa using h) fun _ _ h => h
    · trivial
  case h_4 => trivial

theorem unary_completable (s : ParserState) : Ensures (unary src (fuel + 1)) (fun _ _ => True)
    (StuckBehind src (Starts .unary) s) s := by
  simp only [unary, Parser.plain]
  rw [ensures_bind, ensures_peek]
  split
  case h_1 ht =>
    rw [ensures_bind]
    refine (ensures_advance_passes hsrc ht).imp fun _ s₁ h₁ => ?_
    rw [ensures_bind]
    refine ensures_nested_stuck ?_
    exact (ih.unary s₁.opened).behind h₁ (fun us h => h.negate) fun _ _ h => h
  case h_2 ht =>
    rw [ensures_bind]
    refine (ensures_advance_passes hsrc ht).imp fun _ s₁ h₁ => ?_
    rw [ensures_bind]
    refine ensures_nested_stuck ?_
    exact (ih.unary s₁.opened).behind h₁ (fun us h => h.not) fun _ _ h => h
  case h_3 =>
    rw [ensures_bind]
    -- an operand can be completed on its own, and with the members read so far
    refine (ih.primary_traced s).behind (.refl s) (fun us h => h.weaken (by decide)) ?_
    rintro base s₁ ⟨ts, h₁, hbase⟩
    exact (ih.members s₁ hbase).behind h₁ (fun us h => h.weaken (by decide)) fun _ _ h => h

theorem primary_completable (s : ParserState) : Ensures (primary src (fuel + 1)) (fun _ _ => True)
    (StuckBehind src (Starts .member) s) s := by
  simp only [primary, Parser.plain]
  rw [ensures_bind, ensures_ahead]
  split
  case h_1 => exact (ensures_unexpected_stuck _).behind_nil (.refl s) (starts_nil _) fun _ _ h => h
  case h_2 l rest hs =>
    have ht : s.tokens.head? = some l.token := by simp [ParserState.tokens, hs]
    rw [ensures_bind]
    refine (ensures_advance_passes hsrc ht).imp fun _ s₁ h₁ => ?_
    split
    case h_1 => trivial
    case h_2 hatom => exact fun hunexpected => absurd hunexpected (not_isUnexpected_of_atom? hatom)
    case h_3 htoken =>
      rw [htoken] at h₁
      rw [ensures_bind]
      refine (ih.expression_traced s₁ (by simp)).behind h₁ (fun us h => h.parens) ?_
      rintro e s₂ ⟨us, h₂, he, -⟩
      rw [ensures_bind]
      exact (ensures_expect_passes hsrc _).behind_nil (h₁.trans h₂) he.starts.parens fun _ _ _ => trivial
    case h_4 htoken =>
      rw [htoken] at h₁
      rw [ensures_bind]
      exact (ih.elements _ s₁).behind h₁ (fun us h => h.list) fun _ _ _ => trivial
    case h_5 =>
      -- the token was consumed before it was refused
      exact fun _ => ⟨[], l :: rest, ⟨hs, fun _ => .inl rfl⟩, ⟨_, rfl⟩, starts_nil _⟩

theorem elements_completable (closer : Token) (s : ParserState) :
    Ensures (elements src (fuel + 1) closer) (fun _ _ => True) (StuckBehind src StartsItems s) s := by
  simp only [elements, Parser.plain]
  rw [ensures_bind, ensures_peek]
  split
  · next ht =>
    rw [ensures_bind]
    exact (ensures_advance_passes hsrc ht).imp fun _ _ _ => trivial
  · exact (ih.moreElements closer s).behind (.refl s) (fun us h => h.items) fun _ _ h => h

theorem moreElements_completable (closer : Token) (s : ParserState) :
    Ensures (moreElements src (fuel + 1) closer) (fun _ _ => True) (StuckBehind src StartsMore s) s := by
  simp only [moreElements, Parser.plain]
  rw [ensures_bind]
  -- where the element is stuck, a phrase for it completes the items too
  refine (ih.expression_traced s (by simp)).behind (.refl s) (fun us h => h.more) ?_
  rintro e s₁ ⟨ts, h₁, he, -⟩
  rw [ensures_bind, ensures_peek]
  split
  · next ht =>
    rw [ensures_bind]
    refine (ensures_advance_passes hsrc ht).behind h₁ (fun us h => h) fun _ s₂ h₂ => ?_
    rw [ensures_bind]
    exact (ih.moreElements closer s₂).behind (h₁.trans h₂) (fun us h => by simpa using h.cons he)
      fun _ _ _ => trivial
  · split
    · next ht =>
      rw [ensures_bind]
      exact (ensures_advance_passes hsrc ht).behind h₁ (fun us h => h) fun _ _ _ => trivial
    · exact (ensures_unexpected_stuck _).behind_nil h₁ he.starts.more fun _ _ h => h

theorem members_completable {ts : List Token} {base : Expr} (s : ParserState)
    (hbase : Derives .member ts base) :
    Ensures (members src (fuel + 1) base) (fun _ _ => True)
      (StuckBehind src (fun us => Starts .member (ts ++ us)) s) s := by
  simp only [members, Parser.plain]
  rw [ensures_bind, ensures_peek]
  split
  · next hdot =>
    -- a dot: with a name behind it there is a property, and with a parenthesis a call
    have ht : s.tokens.head? = some (memberDot (decide (s.tokens.head? = some .safeDot))) := by
      rcases hdot with h | h <;> simp [h, memberDot]
    generalize decide (s.tokens.head? = some .safeDot) = nullSafe at ht ⊢
    rw [ensures_bind]
    refine (ensures_advance_passes hsrc ht).imp fun _ s₁ h₁ => ensures_nested_stuck ?_
    rw [ensures_bind]
    refine (ensures_memberName_passes hsrc).behind_nil h₁ (hbase.starts_member nullSafe)
      fun name s₂ h₂ => ?_
    rw [ensures_bind, ensures_peek]
    split
    · next hparen =>
      rw [ensures_bind]
      refine (ensures_advance_passes hsrc hparen).behind (h₁.trans h₂) (fun us h => h)
        fun _ s₃ h₃ => ?_
      rw [ensures_bind]
      refine (ih.elements_traced s₃ .rightParen).behind ((h₁.trans h₂).trans h₃)
        (fun us h => by simpa using h.arguments nullSafe name hbase) ?_
      rintro arguments s₄ ⟨_, h₄, us, rfl, hargs⟩
      exact (ih.members s₄ (.call nullSafe name hbase hargs)).behind
        (((h₁.trans h₂).trans h₃).trans h₄) (fun vs h => by simpa using h) fun _ _ h => h
    · exact (ih.members s₂ (.property nullSafe name hbase)).behind (h₁.trans h₂)
        (fun vs h => by simpa using h) fun _ _ h => h
  · split
    -- a bracket: what is inside starts a position, and with the bracket closed an index
    · next ht =>
      rw [ensures_bind]
      refine (ensures_advance_passes hsrc ht).imp fun _ s₁ h₁ => ensures_nested_stuck ?_
      rw [ensures_bind]
      refine (ih.expression_traced s₁.opened (by simp)).behind h₁ (fun us h => h.position hbase) ?_
      rintro position s₂ ⟨us, h₂, hpos, -⟩
      rw [ensures_bind]
      refine (ensures_expect_passes hsrc _).behind_nil (h₁.trans h₂) (hpos.starts.position hbase)
        fun _ s₃ h₃ => ?_
      exact (ih.members s₃ (.index hbase hpos)).behind ((h₁.trans h₂).trans h₃)
        (fun vs h => by simpa using h) fun _ _ h => h
    · trivial

end

theorem completable (hsrc : src.Lexical) : ∀ fuel, Completable src fuel
  | 0 => completable_zero
  | fuel + 1 =>
    have ih := completable hsrc fuel
    ⟨expression_completable ih, operators_completable ih hsrc, unary_completable ih hsrc,
      primary_completable ih hsrc, elements_completable ih hsrc, moreElements_completable ih hsrc,
      members_completable ih hsrc⟩

/-! ### Whole expressions -/

/-- What is read of a text before an error of the grammar can be completed. -/
theorem wholeExpression_stuck (hsrc : src.Lexical) (fuel : Nat) :
    Ensures (wholeExpression src fuel) (fun _ _ => True) (StuckBehind src Viable ⟨src.lexemes, 0⟩)
      ⟨src.lexemes, 0⟩ := by
  simp only [wholeExpression, Parser.plain]
  rw [ensures_bind]
  refine ((completable hsrc fuel).expression_traced _ (by simp)).behind (.refl _)
    (fun us h => h.viable) ?_
  rintro e s ⟨ts, h₁, he, -⟩
  rw [ensures_bind, ensures_ahead]
  split
  · trivial
  · exact (ensures_unexpected_stuck _).behind_nil h₁ he.starts.viable fun _ _ h => h

end ExprLang
