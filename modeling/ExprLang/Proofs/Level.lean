import ExprLang.Proofs.Grammar

/-!
# Levels and what may follow a phrase

Operators are read in a loop that does not look at the levels of the phrases it has put together.
What makes up for it is a law on the token in view: an operand is read as far as its level allows, so
the token behind it links phrases of a weaker level only, and what was put together so far is a phrase
of a level strong enough to stand before that token.

## Main definitions

* `Token.level?` — the level of the phrases that a token links to.
* `Ends p rest` — no phrase of level `p` goes on with the tokens `rest`.
* `Follows p rest` — if a phrase goes on with `rest`, one of level `p` may stand before them.

## Main results

* `Derives.weaken` — a phrase is one of every weaker level.
* `Ends.follows`, `Ends.follows_of_next` — behind an operand that was read to its end.
-/

namespace ExprLang

namespace Precedence

theorem level_pos (p : Precedence) : 1 ≤ p.level := by
  cases p <;> decide

theorem level_le_nine (p : Precedence) : p.level ≤ 9 := by
  cases p <;> decide

theorem level_le_unary {p : Precedence} (h : p ≠ .member) : p.level ≤ Precedence.unary.level := by
  cases p <;> first | decide | contradiction

theorem level_next_le (p : Precedence) : p.next.level ≤ p.level + 1 := by
  cases p <;> decide

theorem level_next {p : Precedence} (h : p.level < 9) : p.next.level = p.level + 1 := by
  cases p with
  | member => exact absurd h (by decide)
  | _ => rfl

theorem level_le_next (p : Precedence) : p.level ≤ p.next.level := by
  cases p <;> decide

theorem level_injective {p q : Precedence} (h : p.level = q.level) : p = q := by
  cases p <;> cases q <;> first | rfl | exact absurd h (by decide)

theorem admits_iff {least p : Precedence} : least.admits p = true ↔ least.level ≤ p.level := by
  simp [admits]

theorem admits_ternary {least : Precedence} (h : least.admits .ternary) : least = .ternary :=
  level_injective (Nat.le_antisymm (admits_iff.mp h) least.level_pos)

/-- The level of the phrase on the left in a phrase of a level.  Chains of operators lean to the left,
but a conditional or a fallback stands on the left of no other one. -/
def leftOperand : Precedence → Precedence
  | .ternary => .or
  | p => p

theorem level_le_leftOperand (p : Precedence) : p.level ≤ p.leftOperand.level := by
  cases p <;> decide

/-- Where one level is weaker than another, it does not matter which of the two operands it is. -/
theorem level_leftOperand_le {p q : Precedence} (hpq : p.level ≤ q.level) (hq : q ≠ .ternary) :
    p.leftOperand.level ≤ q.level := by
  have hpos := q.level_pos
  have hone : q.level ≠ 1 := fun h => hq (level_injective h)
  cases p with
  | ternary => exact show 2 ≤ q.level by omega
  | _ => exact hpq

end Precedence

theorem BinaryOperator.precedence_ne_ternary (op : BinaryOperator) : op.precedence ≠ .ternary := by
  cases op <;> simp [precedence]

theorem BinaryOperator.next_precedence_ne_member (op : BinaryOperator) :
    op.precedence.next ≠ .member := by
  cases op <;> simp [precedence, Precedence.next]

/-- A phrase is one of every weaker level. -/
theorem Derives.weaken {p q : Precedence} {ts : List Token} {e : Expr} (h : Derives q ts e)
    (hpq : p.level ≤ q.level) : Derives p ts e := by
  -- one level at a time, by the number of levels between the two
  induction hn : q.level - p.level generalizing p with
  | zero => exact Precedence.level_injective (show p.level = q.level by omega) ▸ h
  | succ n ih =>
    have hnine := q.level_le_nine
    have hnext := p.level_next (by omega)
    exact .tighter (ih (by omega) (by omega))

/-! ### What may follow -/

/-- The level of the phrases that a token makes of the phrases before and behind it. -/
def Token.level? : Token → Option Precedence
  | .operator op => some op.precedence
  | .question | .elvis => some .ternary
  | _ => none

/-- No phrase of level `p` goes on with the tokens. -/
def Ends (p : Precedence) (rest : List Token) : Prop :=
  ∀ t ∈ rest.head?, ∀ q ∈ t.level?, q.level < p.level

/-- If the tokens go on with a phrase, it may be one of level `p`. -/
def Follows (p : Precedence) (rest : List Token) : Prop :=
  ∀ t ∈ rest.head?, ∀ q ∈ t.level?, q.leftOperand.level ≤ p.level

/-- With tokens that link to nothing no phrase goes on. -/
theorem ends_of_level?_eq_none {p : Precedence} {rest : List Token}
    (h : ∀ t ∈ rest.head?, t.level? = none) : Ends p rest := by
  intro t ht q hq
  simp [h t ht] at hq

theorem follows_of_level?_eq_none {p : Precedence} {rest : List Token}
    (h : ∀ t ∈ rest.head?, t.level? = none) : Follows p rest := by
  intro t ht q hq
  simp [h t ht] at hq

/-- A phrase of the level of an operator may stand before it. -/
theorem follows_operator (op : BinaryOperator) (rest : List Token) :
    Follows op.precedence (.operator op :: rest) := by
  intro t ht q hq
  obtain rfl : .operator op = t := by simpa using ht
  obtain rfl : op.precedence = q := by simpa [Token.level?] using hq
  exact Precedence.level_leftOperand_le (Nat.le_refl _) op.precedence_ne_ternary

/-- A phrase that is no conditional or fallback may stand before what makes one of it. -/
theorem follows_or {t : Token} (h : t.level? = some .ternary) (rest : List Token) :
    Follows .or (t :: rest) := by
  intro t' ht q hq
  obtain rfl : t = t' := by simpa using ht
  obtain rfl : Precedence.ternary = q := by simpa [h] using hq
  decide

/-- A phrase without binary operators may stand before every token. -/
theorem follows_unary (rest : List Token) : Follows .unary rest := by
  intro t _ q hq
  cases t with
  | operator op =>
    obtain rfl : op.precedence = q := by simpa [Token.level?] using hq
    cases op <;> decide
  | question | elvis =>
    obtain rfl : Precedence.ternary = q := by simpa [Token.level?] using hq
    decide
  | _ => simp [Token.level?] at hq

/-- Before a token that makes a conditional or a fallback of it a phrase is no such itself. -/
theorem Derives.or_of_follows {p : Precedence} {ts rest : List Token} {e : Expr} {t : Token}
    (h : Derives p ts e) (hp : Follows p rest) (ht : rest.head? = some t)
    (hlevel : t.level? = some .ternary) : Derives .or ts e :=
  h.weaken (hp t ht .ternary hlevel)

/-- Before an operator a phrase is of the level of the operator, or of a stronger one. -/
theorem Derives.left_of_follows {p : Precedence} {ts rest : List Token} {e : Expr}
    {op : BinaryOperator} (h : Derives p ts e) (hp : Follows p rest)
    (ht : rest.head? = some (.operator op)) : Derives op.precedence ts e :=
  h.weaken (Nat.le_trans (Precedence.level_le_leftOperand _) (hp _ ht _ rfl))

/-- Reading ends where a token links to a level that is too weak. -/
theorem ends_of_not_admits {least p : Precedence} {rest : List Token} {t : Token}
    (ht : rest.head? = some t) (hlevel : t.level? = some p) (h : ¬ least.admits p) :
    Ends least rest := by
  intro t' ht' q hq
  obtain rfl : t = t' := Option.some.inj (ht.symm.trans ht')
  obtain rfl : p = q := Option.some.inj (hlevel.symm.trans hq)
  rw [Precedence.admits_iff] at h
  omega

theorem Follows.mono {p q : Precedence} {rest : List Token} (h : Follows p rest)
    (hpq : p.level ≤ q.level) : Follows q rest :=
  fun t ht r hr => Nat.le_trans (h t ht r hr) hpq

/-- Nothing goes on with a phrase of the weakest level that was read to its end. -/
theorem Ends.follows {p : Precedence} {rest : List Token} (h : Ends .ternary rest) :
    Follows p rest := by
  intro t ht q hq
  have hlt : q.level < 1 := h t ht q hq
  have hpos := q.level_pos
  omega

/-- What a conditional or a fallback may stand before does not go on with a phrase at all. -/
theorem Follows.ends {rest : List Token} (h : Follows .ternary rest) : Ends .ternary rest := by
  intro t ht q hq
  have hle : q.leftOperand.level ≤ 1 := h t ht q hq
  have hlt : 1 < q.leftOperand.level := by cases q <;> decide
  omega

/-- Behind the right operand of an operator there are only operators that lean on the whole. -/
theorem Ends.follows_of_next {op : BinaryOperator} {rest : List Token}
    (h : Ends op.precedence.next rest) : Follows op.precedence rest := by
  intro t ht q hq
  have hlt := h t ht q hq
  have hnext := op.precedence.level_next_le
  exact Precedence.level_leftOperand_le (by omega) op.precedence_ne_ternary

/-- A phrase that may stand before the tokens is at its end if they link to weaker phrases only. -/
theorem Follows.ends_next {op : BinaryOperator} {rest : List Token}
    (h : Follows op.precedence rest) : Ends op.precedence.next rest := by
  intro t ht q hq
  have hle := h t ht q hq
  have hleft := q.level_le_leftOperand
  have hlt : op.precedence.level < 9 := by cases op <;> decide
  have hnext := Precedence.level_next hlt
  omega

end ExprLang
