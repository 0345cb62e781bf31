import ExprLang.Expr.Parser

/-!
# What a reader ensures

A reader ends with a result or stops early, and leaves a state behind in both cases.  `Ensures` says
of a run what holds of each of the two endings.  Every way of putting readers together has a rule
here, so that what a reader of the grammar ensures follows from what its parts do, and the grammar is
unfolded nowhere but one level at a time.

Most statements about readers do not care where a token stands.  They speak of `tokens`, the bare
tokens ahead.

## Main definitions

* `Ensures p Q E s` — run from `s`, the reader `p` ends with `Q` or stops with `E`.
* `ParserState.tokens` — the tokens ahead.

## Main results

* `Ensures.mono`, `Ensures.and`, `ensures_bind`, `ensures_advance`, `ensures_nested` — the rules.
-/

namespace ExprLang

/-- The tokens ahead. -/
def ParserState.tokens (s : ParserState) : List Token := s.ahead.map Lexeme.token

/-- The state with one more level open. -/
def ParserState.opened (s : ParserState) : ParserState := { s with depth := s.depth + 1 }

/-- The state with one level fewer open. -/
def ParserState.closed (s : ParserState) : ParserState := { s with depth := s.depth - 1 }

/-- How far the text has been looked at: to the end of the token in view, or of the text that can be
read. -/
def ParserState.viewed (src : Lexemes) (s : ParserState) : Nat :=
  (s.ahead.head?.map Lexeme.stop).getD src.stop

namespace ParserState

variable (s : ParserState)

@[simp] theorem ahead_opened : s.opened.ahead = s.ahead := rfl

@[simp] theorem depth_opened : s.opened.depth = s.depth + 1 := rfl

@[simp] theorem tokens_opened : s.opened.tokens = s.tokens := rfl

@[simp] theorem ahead_closed : s.closed.ahead = s.ahead := rfl

@[simp] theorem depth_closed : s.closed.depth = s.depth - 1 := rfl

@[simp] theorem tokens_closed : s.closed.tokens = s.tokens := rfl

end ParserState

/-- The errors of literals: a decimal that is too large, and a string with an escape that is not defined.
They point to where the literal starts. -/
theorem atom?_eq_error {l : Lexeme} {e : ParseError} (h : atom? l = some (.error e)) :
    (∃ digits, l.token = .decimal digits ∧ Decimal.read? digits.toList = none ∧
      e = .invalidNumber digits l.start) ∨
    ∃ body escape, l.token = .string body ∧ unescape body.toList = .error escape ∧
      e = .invalidEscape (String.ofList escape) l.start := by
  obtain ⟨t, start, stop⟩ := l
  cases t with
  | decimal digits =>
    cases hread : Decimal.read? digits.toList with
    | some d => simp [atom?, hread] at h
    | none =>
      simp only [atom?, hread, Option.some.injEq, Except.error.injEq] at h
      exact .inl ⟨digits, rfl, hread, h.symm⟩
  | string body =>
    cases hread : unescape body.toList with
    | ok cs => simp [atom?, hread] at h
    | error escape =>
      simp only [atom?, hread, Option.some.injEq, Except.error.injEq] at h
      exact .inr ⟨body, escape, rfl, hread, h.symm⟩
  | _ => simp [atom?] at h

/-- Run from the state `s`, the reader `p` ends with a result and a state of which `Q` holds, or stops
for a reason and in a state of which `E` holds. -/
def Ensures {α : Type} (p : Parser α) (Q : α → ParserState → Prop) (E : Stop → ParserState → Prop)
    (s : ParserState) : Prop :=
  match p s with
  | .ok a s' => Q a s'
  | .error e s' => E e s'

section Rules

variable {α β : Type} {Q : α → ParserState → Prop} {E : Stop → ParserState → Prop} {s : ParserState}
  {src : Lexemes}

theorem Ensures.mono {p : Parser α} {Q' : α → ParserState → Prop} {E' : Stop → ParserState → Prop}
    (h : Ensures p Q E s) (hQ : ∀ a s', Q a s' → Q' a s') (hE : ∀ e s', E e s' → E' e s') :
    Ensures p Q' E' s := by
  unfold Ensures at h ⊢
  cases hp : p s with
  | ok a s' => rw [hp] at h; exact hQ a s' h
  | error e s' => rw [hp] at h; exact hE e s' h

theorem Ensures.imp {p : Parser α} {Q' : α → ParserState → Prop} (h : Ensures p Q E s)
    (hQ : ∀ a s', Q a s' → Q' a s') : Ensures p Q' E s :=
  h.mono hQ fun _ _ h => h

/-- What is known of one run from two sides holds together. -/
theorem Ensures.and {p : Parser α} {Q' : α → ParserState → Prop} {E' : Stop → ParserState → Prop}
    (h : Ensures p Q E s) (h' : Ensures p Q' E' s) :
    Ensures p (fun a s' => Q a s' ∧ Q' a s') (fun e s' => E e s' ∧ E' e s') s := by
  unfold Ensures at h h' ⊢
  cases hp : p s with
  | ok a s' => rw [hp] at h h'; exact ⟨h, h'⟩
  | error e s' => rw [hp] at h h'; exact ⟨h, h'⟩

/-- What holds of an ending with a result. -/
theorem Ensures.of_ok {p : Parser α} {a : α} {s' : ParserState} (h : Ensures p Q E s)
    (hp : p s = .ok a s') : Q a s' := by
  unfold Ensures at h
  rw [hp] at h
  exact h

@[simp] theorem ensures_pure (a : α) : Ensures (pure a) Q E s ↔ Q a s := Iff.rfl

@[simp] theorem ensures_throw (e : Stop) : Ensures (throw e) Q E s ↔ E e s := Iff.rfl

@[simp] theorem ensures_bind {Q : β → ParserState → Prop} (p : Parser α) (f : α → Parser β) :
    Ensures (p >>= f) Q E s ↔ Ensures p (fun a => Ensures (f a) Q E) E s := by
  simp only [Ensures, bind, EStateM.bind]
  cases p s <;> rfl

@[simp] theorem ensures_ahead {Q : List Lexeme → ParserState → Prop} :
    Ensures ahead Q E s ↔ Q s.ahead s := Iff.rfl

@[simp] theorem ensures_peek {Q : Option Token → ParserState → Prop} :
    Ensures peek Q E s ↔ Q s.tokens.head? s := by
  simp [Ensures, peek, ParserState.tokens, List.head?_map]

/-- One token is gone.  Where it was the last one, the text must have been read to its end. -/
theorem ensures_advance {Q : Unit → ParserState → Prop} {l : Lexeme} {rest : List Lexeme}
    (hs : s.ahead = l :: rest) (hQ : (rest = [] → src.failure = none) → Q () { s with ahead := rest })
    (hE : ∀ e, rest = [] → src.failure = some e → E (.error e) s) : Ensures (advance src) Q E s := by
  simp only [Ensures, advance, hs]
  cases rest with
  | nil =>
    cases hf : src.failure with
    | none => exact hQ fun _ => hf
    | some e => exact hE e rfl hf
  | cons l' rest => exact hQ (by simp)

theorem ensures_unexpected {expected : Expectation}
    (hnil : s.ahead = [] → E (.error (.unexpectedEnd expected)) s)
    (hcons : ∀ l rest, s.ahead = l :: rest →
      E (.error (.unexpectedToken l.token expected l.start)) s) :
    Ensures (unexpected expected : Parser α) Q E s := by
  simp only [Ensures, unexpected]
  cases hs : s.ahead with
  | nil => exact hnil hs
  | cons l rest => exact hcons l rest hs

/-- A level is opened and closed again, unless there are too many open already; then the error points
behind the token in view. -/
theorem ensures_nested_at {p : Parser α}
    (hp : s.depth < maxDepth →
      Ensures p (fun a s' => Q a s'.closed) (fun e s' => E e s'.closed) s.opened)
    (hE : ¬ s.depth < maxDepth → E (.error (.tooDeeplyNested maxDepth (s.viewed src))) s) :
    Ensures (nested src p) Q E s := by
  by_cases hlt : s.depth < maxDepth
  · have h := hp hlt
    simp only [Ensures, nested, hlt, if_true, ParserState.opened] at h ⊢
    cases hps : p { s with depth := s.depth + 1 } with
    | ok a s' => rw [hps] at h; exact h
    | error e s' => rw [hps] at h; exact h
  · simp only [Ensures, nested, hlt, if_false]
    exact hE hlt

/-- The same where it does not matter what the error points at. -/
theorem ensures_nested {p : Parser α}
    (hp : s.depth < maxDepth →
      Ensures p (fun a s' => Q a s'.closed) (fun e s' => E e s'.closed) s.opened)
    (hE : ¬ s.depth < maxDepth → ∀ position, E (.error (.tooDeeplyNested maxDepth position)) s) :
    Ensures (nested src p) Q E s :=
  ensures_nested_at hp fun hlt => hE hlt _

theorem ensures_expect {Q : Unit → ParserState → Prop} {t : Token}
    (hadvance : s.tokens.head? = some t → Ensures (advance src) Q E s)
    (hunexpected : s.tokens.head? ≠ some t → Ensures (unexpected (.token t) : Parser Unit) Q E s) :
    Ensures (expect src t) Q E s := by
  simp only [expect, ensures_bind, ensures_peek]
  split
  · next h => exact hadvance h
  · next h => exact hunexpected h

theorem ensures_memberName {Q : String → ParserState → Prop}
    (hname : ∀ name, s.tokens.head? = some (.identifier name) →
      Ensures (advance src) (fun _ => Q name) E s)
    (hunexpected : (∀ name, s.tokens.head? ≠ some (.identifier name)) →
      Ensures (unexpected .memberName : Parser String) Q E s) :
    Ensures (memberName src) Q E s := by
  simp only [memberName, ensures_bind, ensures_peek]
  split
  · next name h =>
    simp only [ensures_bind]
    exact hname name h
  · next h => exact hunexpected h

end Rules

end ExprLang
