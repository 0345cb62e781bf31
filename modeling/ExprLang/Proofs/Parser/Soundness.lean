import ExprLang.Proofs.Level
import ExprLang.Proofs.Parser.Logic

/-!
# What is read is a phrase

Every reader of the grammar consumes a phrase of its level and answers the tree of it.  The readers of
chains are given what the chain begins with, and add to it.

## Main definitions

* `Sound src fuel` — what the seven readers consume with some fuel.

## Main results

* `sound` — the readers consume phrases.
-/

namespace ExprLang

/-- No matter how reading stops. -/
def AnyStop (_ : Stop) (_ : ParserState) : Prop := True

section

variable {src : Lexemes} {s : ParserState} {α : Type} {Q : α → ParserState → Prop}

/-! ### Single tokens -/

theorem ensures_advance_tokens {t : Token} (ht : s.tokens.head? = some t) :
    Ensures (advance src) (fun _ s' => s.tokens = t :: s'.tokens) AnyStop s := by
  cases hs : s.ahead with
  | nil => simp [ParserState.tokens, hs] at ht
  | cons l rest =>
    refine ensures_advance hs (fun _ => ?_) fun _ _ _ => trivial
    simp only [ParserState.tokens, hs, List.map_cons, List.head?_cons, Option.some.injEq] at ht ⊢
    rw [ht]

theorem ensures_unexpected_anyStop (expected : Expectation) :
    Ensures (unexpected expected) Q AnyStop s :=
  ensures_unexpected (fun _ => trivial) fun _ _ _ => trivial

theorem ensures_expect_tokens (t : Token) :
    Ensures (expect src t) (fun _ s' => s.tokens = t :: s'.tokens) AnyStop s :=
  ensures_expect ensures_advance_tokens fun _ => ensures_unexpected_anyStop _

theorem ensures_memberName_tokens :
    Ensures (memberName src) (fun name s' => s.tokens = .identifier name :: s'.tokens) AnyStop s :=
  ensures_memberName (fun _ => ensures_advance_tokens) fun _ => ensures_unexpected_anyStop _

theorem ensures_nested_anyStop {p : Parser α}
    (hp : Ensures p (fun a s' => Q a s'.closed) AnyStop s.opened) :
    Ensures (nested src p) Q AnyStop s :=
  ensures_nested (fun _ => hp) fun _ _ => trivial

end

/-! ### The readers -/

/-- What the readers consume with some fuel. -/
structure Sound (src : Lexemes) (fuel : Nat) : Prop where
  expression : ∀ {least : Precedence} (s : ParserState), least ≠ .member →
    Ensures (expression src fuel least)
      (fun e s' => ∃ ts, s.tokens = ts ++ s'.tokens ∧ Derives least ts e ∧ Ends least s'.tokens)
      AnyStop s
  operators : ∀ {least p : Precedence} {ts : List Token} {left : Expr} {s : ParserState},
    Derives p ts left → least.level ≤ p.level → Follows p s.tokens →
    Ensures (operators src fuel least left)
      (fun e s' => ∃ us, s.tokens = us ++ s'.tokens ∧ Derives least (ts ++ us) e ∧
        Ends least s'.tokens) AnyStop s
  unary : ∀ s, Ensures (unary src fuel)
    (fun e s' => ∃ ts, s.tokens = ts ++ s'.tokens ∧ Derives .unary ts e) AnyStop s
  primary : ∀ s, Ensures (primary src fuel)
    (fun e s' => ∃ ts, s.tokens = ts ++ s'.tokens ∧ Derives .member ts e) AnyStop s
  elements : ∀ closer s, Ensures (elements src fuel closer)
    (fun es s' => ∃ ts, s.tokens = ts ++ closer :: s'.tokens ∧ DerivesItems ts es) AnyStop s
  moreElements : ∀ closer s, Ensures (moreElements src fuel closer)
    (fun es s' => ∃ ts, s.tokens = ts ++ closer :: s'.tokens ∧ DerivesItems ts es ∧ es ≠ [])
    AnyStop s
  members : ∀ {ts : List Token} {base : Expr} (s : ParserState), Derives .member ts base →
    Ensures (members src fuel base)
      (fun e s' => ∃ us, s.tokens = us ++ s'.tokens ∧ Derives .member (ts ++ us) e) AnyStop s

variable {src : Lexemes} {fuel : Nat}

theorem sound_zero : Sound src 0 where
  expression s _ := by
    rw [expression]
    trivial
  operators _ _ _ := by
    rw [operators]
    trivial
  unary s := by
    rw [unary]
    trivial
  primary s := by
    rw [primary]
    trivial
  elements closer s := by
    rw [elements]
    trivial
  moreElements closer s := by
    rw [moreElements]
    trivial
  members s _ := by
    rw [members]
    trivial

theorem expression_sound (ih : Sound src fuel) {least : Precedence} (s : ParserState)
    (hleast : least ≠ .member) :
    Ensures (expression src (fuel + 1) least)
      (fun e s' => ∃ ts, s.tokens = ts ++ s'.tokens ∧ Derives least ts e ∧ Ends least s'.tokens)
      AnyStop s := by
  simp only [expression, Parser.plain]
  refine ensures_nested_anyStop ?_
  rw [ensures_bind]
  refine (ih.unary s.opened).imp fun left s₁ ⟨ts, h₁, hleft⟩ => ?_
  have hle := Precedence.level_le_unary hleast
  refine (ih.operators hleft hle (follows_unary _)).imp fun e s₂ ⟨us, h₂, he, hends⟩ => ?_
  exact ⟨ts ++ us, by simpa [h₂] using h₁, he, hends⟩

theorem operators_sound (ih : Sound src fuel) {least p : Precedence} {ts : List Token} {left : Expr}
    {s : ParserState} (hleft : Derives p ts left) (hle : least.level ≤ p.level)
    (hp : Follows p s.tokens) :
    Ensures (operators src (fuel + 1) least left)
      (fun e s' => ∃ us, s.tokens = us ++ s'.tokens ∧ Derives least (ts ++ us) e ∧
        Ends least s'.tokens) AnyStop s := by
  -- where the loop ends, what was put together so far is the answer
  have hdone : Ends least s.tokens →
      Ensures (pure left : Parser Expr) (fun e s' => ∃ us, s.tokens = us ++ s'.tokens ∧
        Derives least (ts ++ us) e ∧ Ends least s'.tokens) AnyStop s :=
    fun hends => ⟨[], rfl, by simpa using hleft.weaken hle, hends⟩
  simp only [operators, Parser.plain]
  rw [ensures_bind, ensures_peek]
  split
  case h_1 ht =>
    split
    case isTrue hadmits =>
      obtain rfl := Precedence.admits_ternary hadmits
      -- what was put together is the condition, so it has to be a phrase below the conditionals
      rw [ensures_bind]
      refine (ensures_advance_tokens ht).imp fun _ s₁ h₁ => ensures_nested_anyStop ?_
      rw [ensures_bind]
      refine (ih.expression s₁.opened (by simp)).imp fun whenTrue s₂ ⟨us, h₂, htrue, _⟩ => ?_
      rw [ensures_bind]
      refine (ensures_expect_tokens .colon).imp fun _ s₃ h₃ => ?_
      rw [ensures_bind]
      refine (ih.expression s₃ (by simp)).imp fun whenFalse s₄ ⟨vs, h₄, hfalse, hends⟩ => ?_
      have hcond := Derives.conditional (hleft.or_of_follows hp ht rfl) htrue hfalse
      refine (ih.operators hcond (Nat.le_refl _) hends.follows).imp fun e s₅ ⟨ws, h₅, he, hend⟩ => ?_
      refine ⟨.question :: (us ++ .colon :: (vs ++ ws)), ?_, by simpa using he, hend⟩
      simp_all
    case isFalse hadmits => exact hdone (ends_of_not_admits ht rfl hadmits)
  case h_2 ht =>
    split
    case isTrue hadmits =>
      obtain rfl := Precedence.admits_ternary hadmits
      rw [ensures_bind]
      refine (ensures_advance_tokens ht).imp fun _ s₁ h₁ => ensures_nested_anyStop ?_
      rw [ensures_bind]
      refine (ih.expression s₁.opened (by simp)).imp fun fallback s₂ ⟨us, h₂, hfall, hends⟩ => ?_
      have helvis := Derives.elvis (hleft.or_of_follows hp ht rfl) hfall
      refine (ih.operators helvis (Nat.le_refl _) hends.follows).imp fun e s₃ ⟨ws, h₃, he, hend⟩ => ?_
      refine ⟨.elvis :: (us ++ ws), ?_, by simpa using he, hend⟩
      simp_all
    case isFalse hadmits => exact hdone (ends_of_not_admits ht rfl hadmits)
  case h_3 op ht =>
    split
    case isTrue hadmits =>
      -- the right operand is stronger, so that the chain goes on to the left of it
      rw [ensures_bind]
      refine (ensures_advance_tokens ht).imp fun _ s₁ h₁ => ensures_nested_anyStop ?_
      rw [ensures_bind]
      refine (ih.expression s₁.opened op.next_precedence_ne_member).imp
        fun right s₂ ⟨us, h₂, hright, hends⟩ => ?_
      have hbinary := Derives.binary op (hleft.left_of_follows hp ht) hright
      refine (ih.operators hbinary (Precedence.admits_iff.mp hadmits) hends.follows_of_next).imp
        fun e s₃ ⟨ws, h₃, he, hend⟩ => ?_
      refine ⟨.operator op :: (us ++ ws), ?_, by simpa using he, hend⟩
      simp_all
    case isFalse hadmits => exact hdone (ends_of_not_admits ht rfl hadmits)
  case h_4 hquestion helvis hop =>
    refine hdone (ends_of_level?_eq_none fun t ht => ?_)
    cases t with
    | operator op => exact absurd ht (hop op)
    | question => exact absurd ht hquestion
    | elvis => exact absurd ht helvis
    | _ => rfl

theorem unary_sound (ih : Sound src fuel) (s : ParserState) :
    Ensures (unary src (fuel + 1))
      (fun e s' => ∃ ts, s.tokens = ts ++ s'.tokens ∧ Derives .unary ts e) AnyStop s := by
  simp only [unary, Parser.plain]
  rw [ensures_bind, ensures_peek]
  split
  case h_1 ht =>
    rw [ensures_bind]
    refine (ensures_advance_tokens ht).imp fun _ s₁ h₁ => ?_
    rw [ensures_bind]
    refine ensures_nested_anyStop ((ih.unary s₁.opened).imp fun e s₂ ⟨ts, h₂, he⟩ => ?_)
    exact ⟨_ :: ts, by simp_all, .negate he⟩
  case h_2 ht =>
    rw [ensures_bind]
    refine (ensures_advance_tokens ht).imp fun _ s₁ h₁ => ?_
    rw [ensures_bind]
    refine ensures_nested_anyStop ((ih.unary s₁.opened).imp fun e s₂ ⟨ts, h₂, he⟩ => ?_)
    exact ⟨_ :: ts, by simp_all, .not he⟩
  case h_3 =>
    rw [ensures_bind]
    refine (ih.primary s).imp fun base s₁ ⟨ts, h₁, hbase⟩ => ?_
    refine (ih.members s₁ hbase).imp fun e s₂ ⟨us, h₂, he⟩ => ?_
    exact ⟨ts ++ us, by simp_all, .tighter he⟩

theorem primary_sound (ih : Sound src fuel) (s : ParserState) :
    Ensures (primary src (fuel + 1))
      (fun e s' => ∃ ts, s.tokens = ts ++ s'.tokens ∧ Derives .member ts e) AnyStop s := by
  simp only [primary, Parser.plain]
  rw [ensures_bind, ensures_ahead]
  split
  case h_1 => exact ensures_unexpected_anyStop _
  case h_2 l rest hs =>
    have ht : s.tokens.head? = some l.token := by simp [ParserState.tokens, hs]
    rw [ensures_bind]
    refine (ensures_advance_tokens ht).imp fun _ s₁ h₁ => ?_
    split
    -- an atom, or an expression in parentheses, or a list
    case h_1 e _ hatom => exact ⟨[l.token], h₁, .atom (atom?_eq_some_iff.mp hatom)⟩
    case h_2 => trivial
    case h_3 _ htoken =>
      rw [ensures_bind]
      refine (ih.expression s₁ (by simp)).imp ?_
      rintro e s₂ ⟨ts, h₂, he, -⟩
      rw [ensures_bind]
      refine (ensures_expect_tokens _).imp fun _ s₃ h₃ => ?_
      exact ⟨_, by simp_all, .parens he⟩
    case h_4 _ htoken =>
      rw [ensures_bind]
      refine (ih.elements _ s₁).imp ?_
      rintro es s₂ ⟨ts, h₂, hes⟩
      exact ⟨_, by simp_all, .list hes⟩
    case h_5 => trivial

theorem elements_sound (ih : Sound src fuel) (closer : Token) (s : ParserState) :
    Ensures (elements src (fuel + 1) closer)
      (fun es s' => ∃ ts, s.tokens = ts ++ closer :: s'.tokens ∧ DerivesItems ts es) AnyStop s := by
  simp only [elements, Parser.plain]
  rw [ensures_bind, ensures_peek]
  split
  · next ht =>
    rw [ensures_bind]
    exact (ensures_advance_tokens ht).imp fun _ s₁ h₁ => ⟨[], h₁, .none⟩
  · exact (ih.moreElements closer s).imp fun es s₁ ⟨ts, h₁, hes, _⟩ => ⟨ts, h₁, hes⟩

theorem moreElements_sound (ih : Sound src fuel) (closer : Token) (s : ParserState) :
    Ensures (moreElements src (fuel + 1) closer)
      (fun es s' => ∃ ts, s.tokens = ts ++ closer :: s'.tokens ∧ DerivesItems ts es ∧ es ≠ [])
      AnyStop s := by
  simp only [moreElements, Parser.plain]
  rw [ensures_bind]
  refine (ih.expression s (by simp)).imp fun e s₁ ⟨ts, h₁, he, _⟩ => ?_
  rw [ensures_bind, ensures_peek]
  -- the comma is part of the phrase of the items, the closing token is not
  split
  · next ht =>
    rw [ensures_bind]
    refine (ensures_advance_tokens ht).imp fun _ s₂ h₂ => ?_
    rw [ensures_bind]
    refine (ih.moreElements closer s₂).imp fun es s₃ ⟨us, h₃, hes, hne⟩ => ?_
    obtain ⟨e', es, rfl⟩ := List.exists_cons_of_ne_nil hne
    exact ⟨_, by simp_all, .cons he hes, by simp⟩
  · split
    · next ht =>
      rw [ensures_bind]
      exact (ensures_advance_tokens ht).imp fun _ s₂ h₂ => ⟨ts, by simp_all, .last he, by simp⟩
    · exact ensures_unexpected_anyStop _

theorem members_sound (ih : Sound src fuel) {ts : List Token} {base : Expr} (s : ParserState)
    (hbase : Derives .member ts base) :
    Ensures (members src (fuel + 1) base)
      (fun e s' => ∃ us, s.tokens = us ++ s'.tokens ∧ Derives .member (ts ++ us) e) AnyStop s := by
  simp only [members, Parser.plain]
  rw [ensures_bind, ensures_peek]
  split
  · next hdot =>
    have ht : s.tokens.head? = some (memberDot (decide (s.tokens.head? = some .safeDot))) := by
      rcases hdot with h | h <;> simp [h, memberDot]
    -- which of the two dots it is does not matter from here on
    generalize decide (s.tokens.head? = some .safeDot) = nullSafe at ht ⊢
    rw [ensures_bind]
    refine (ensures_advance_tokens ht).imp fun _ s₁ h₁ => ensures_nested_anyStop ?_
    rw [ensures_bind]
    refine ensures_memberName_tokens.imp fun name s₂ h₂ => ?_
    rw [ensures_bind, ensures_peek]
    split
    · next hparen =>
      rw [ensures_bind]
      refine (ensures_advance_tokens hparen).imp fun _ s₃ h₃ => ?_
      rw [ensures_bind]
      refine (ih.elements .rightParen s₃).imp fun arguments s₄ ⟨us, h₄, hargs⟩ => ?_
      refine (ih.members s₄ (.call _ name hbase hargs)).imp fun e s₅ ⟨vs, h₅, he⟩ => ?_
      refine ⟨_ :: .identifier name :: .leftParen :: (us ++ .rightParen :: vs), ?_, by simpa using he⟩
      simp_all
    · refine (ih.members s₂ (.property _ name hbase)).imp fun e s₃ ⟨vs, h₃, he⟩ => ?_
      refine ⟨_ :: .identifier name :: vs, ?_, by simpa using he⟩
      simp_all
  · split
    · next ht =>
      rw [ensures_bind]
      refine (ensures_advance_tokens ht).imp fun _ s₁ h₁ => ensures_nested_anyStop ?_
      rw [ensures_bind]
      refine (ih.expression s₁.opened (by simp)).imp fun position s₂ ⟨us, h₂, hpos, _⟩ => ?_
      rw [ensures_bind]
      refine (ensures_expect_tokens _).imp fun _ s₃ h₃ => ?_
      refine (ih.members s₃ (.index hbase hpos)).imp fun e s₄ ⟨vs, h₄, he⟩ => ?_
      exact ⟨.leftBracket :: (us ++ .rightBracket :: vs), by simp_all, by simpa using he⟩
    · exact ⟨[], rfl, by simpa using hbase⟩

theorem sound (src : Lexemes) : ∀ fuel, Sound src fuel
  | 0 => sound_zero
  | fuel + 1 =>
    have ih := sound src fuel
    ⟨expression_sound ih, operators_sound ih, unary_sound ih, primary_sound ih, elements_sound ih,
      moreElements_sound ih, members_sound ih⟩

end ExprLang
