import ExprLang.Proofs.Parser.Account
import ExprLang.Proofs.Parser.Logic

/-!
# What reading costs

All that is recorded has to be paid for by tokens, fifteen moments by each.  A reader has a budget for the
case that it ends with a result and another one for errors.  Where the first is negative something is
left over for those that call it, so a token was consumed.  Where an error has happened nothing is begun
any more, and what is owed then need not be paid.

There is a rule for each way of putting readers together.  It says what this costs and also where it may
be done by the account: `k` says that the innermost call has found more tokens than are ahead now, or
that it is `k` calls or more away from an operand.

## Main definitions

* `Levels.Stands`, `Levels.Admits` — where reading stands by its account, and what it may call there.
* `Levels.Spent` — what happens between two states costs no more than this.
* `Levels.Spends` — a reader that keeps to its account and to its budgets.

## Main results

* `Levels.Spent.length_lt` — what leaves something over has consumed a token.
* `Levels.Spends.bind_at`, `Levels.spends_lift`, `Levels.Spends.call`, `Levels.Spends.within`,
  `Levels.Spends.chain`, `Levels.Spends.link` — the rules.
-/

namespace ExprLang
namespace Levels

variable {α β : Type} {src : Lexemes}

/-! ### Where reading stands -/

/-- The account of what has happened up to now. -/
def State.account (src : Lexemes) (t : State) : Account := (Account.start src).after t.log

/-- All that has happened was allowed, and these calls are active.  Reading is `ok` only where there was
no error. -/
structure Stands (src : Lexemes) (calls : List OpenCall) (ok : Bool) (t : State) : Prop where
  lawful : (Account.start src).Lawful t.log
  calls_eq : (t.account src).calls = calls
  ahead : t.ahead <:+ (t.account src).ahead
  unfailed : ok = true → (t.account src).failed = false

/-- The innermost call has found more tokens than are ahead, or it is `k` calls or more away from an
operand. -/
def Admits (k : ℕ) (calls : List OpenCall) (t : State) : Prop :=
  ∀ c ∈ calls.head?, toLex (t.ahead.length, k) ≤ c.measure

/-- What has been recorded, and what can be paid for by the tokens ahead. -/
def State.expense (t : State) : ℤ := t.log.length + 15 * t.ahead.length

/-- From one state to another no tokens were given back, and what has happened costs no more than `b`. -/
structure Spent (b : ℤ) (t t' : State) : Prop where
  ahead : t'.ahead <:+ t.ahead
  log : t.log.length ≤ t'.log.length
  expense : t'.expense ≤ t.expense + b

section States

variable {calls calls' : List OpenCall} {ok : Bool} {t t₁ t₂ : State} {e : Event} {b b' : ℤ} {k k' : ℕ}

theorem State.account_record (t : State) (e : Event) :
    (t.record e).account src = (t.account src).next ⟨e, t.toParserState⟩ := by
  rw [account, log_record, Account.after_append]
  rfl

theorem Stands.forget (h : Stands src calls ok t) : Stands src calls false t :=
  ⟨h.lawful, h.calls_eq, h.ahead, fun hok => absurd hok Bool.false_ne_true⟩

theorem Stands.record (h : Stands src calls ok t)
    (hallows : (t.account src).Allows ⟨e, t.toParserState⟩)
    (hcalls : ((t.account src).next ⟨e, t.toParserState⟩).calls = calls')
    (hunfailed : ok = true → ((t.account src).next ⟨e, t.toParserState⟩).failed = false) :
    Stands src calls' ok (t.record e) where
  lawful := by
    rw [State.log_record, Account.lawful_append]
    exact ⟨h.lawful, hallows, trivial⟩
  calls_eq := by rw [State.account_record, hcalls]
  ahead := by
    rw [State.account_record, Account.next_ahead]
    exact List.suffix_refl _
  unfailed hok := by rw [State.account_record, hunfailed hok]

/-- A state with fewer tokens and nothing new recorded. -/
theorem Stands.of_suffix (h : Stands src calls ok t) (hlog : t₁.log = t.log)
    (hahead : t₁.ahead <:+ t.ahead) : Stands src calls ok t₁ := by
  have haccount : t₁.account src = t.account src := congrArg (Account.start src).after hlog
  exact ⟨hlog ▸ h.lawful, haccount ▸ h.calls_eq, haccount ▸ hahead.trans h.ahead, haccount ▸ h.unfailed⟩

/-- Something happens to the levels. -/
theorem Stands.record_levels (h : Stands src calls ok t) (he : e.ofLevels = true)
    (hlog : t₁.log = t.log := by rfl) (hahead : t₁.ahead = t.ahead := by rfl) :
    Stands src calls ok (t₁.record e) := by
  have h₁ : Stands src calls ok t₁ := h.of_suffix hlog (hahead ▸ List.suffix_refl _)
  have hnext := Account.next_of_levels (a := t₁.account src) (s := t₁.toParserState) he
  refine h₁.record (Account.allows_of_levels he h₁.ahead) ?_ fun hok => ?_
  · rw [hnext, h₁.calls_eq]
  · rw [hnext, h₁.unfailed hok]

/-- A call finds fewer tokens than the one around it, or is nearer to an operand. -/
theorem Stands.called {r : Routine} (h : Stands src calls true t)
    (hadmits : Admits (r.toPrimary + 1) calls t) :
    Stands src (⟨r, t.ahead.length⟩ :: calls) true (t.record (.called r)) := by
  refine h.record ⟨h.ahead, h.unfailed rfl, fun c hc => ?_⟩ (congrArg (_ :: ·) h.calls_eq) h.unfailed
  rw [h.calls_eq] at hc
  have hmeasure : toLex (t.ahead.length, r.toPrimary) < toLex (t.ahead.length, r.toPrimary + 1) :=
    Prod.Lex.toLex_lt_toLex.mpr (.inr ⟨rfl, Nat.lt_succ_self _⟩)
  exact lt_of_lt_of_le hmeasure (hadmits c hc)

/-- The innermost call returns. -/
theorem Stands.returned {c : OpenCall} (h : Stands src (c :: calls) ok t)
    (hok : ok = true → c.routine ≠ .members → t.ahead.length < c.found) :
    Stands src calls ok (t.record (.returned c.routine ok)) := by
  refine h.record ⟨h.ahead, c, ?_, rfl, fun hr => ⟨h.unfailed hr, hok hr⟩⟩
    (congrArg List.tail h.calls_eq) ?_
  · exact congrArg List.head? h.calls_eq
  · rintro rfl
    exact (Bool.or_false _).trans (h.unfailed rfl)

/-- A link is added where fewer tokens are ahead than when something was last recorded. -/
theorem Stands.linked (h : Stands src calls true t) (hlog : t₁.log = t.log)
    (hsuffix : t₁.ahead <:+ t.ahead) (hshorter : t₁.ahead.length < t.ahead.length) :
    Stands src calls true t₁.link := by
  have hraised : Stands src calls true (t₁.raise.withLinks (t₁.links + 1)) := h.of_suffix hlog hsuffix
  have haccount : (t₁.raise.withLinks (t₁.links + 1)).account src = t.account src :=
    congrArg (Account.start src).after hlog
  refine hraised.record ⟨hraised.ahead, hraised.unfailed rfl, ?_⟩ hraised.calls_eq hraised.unfailed
  rw [haccount]
  exact Nat.lt_of_lt_of_le hshorter h.ahead.length_le

theorem Spent.refl (t : State) : Spent 0 t t := ⟨List.suffix_refl _, Nat.le_refl _, by omega⟩

theorem Spent.trans (h : Spent b t t₁) (h' : Spent b' t₁ t₂) : Spent (b + b') t t₂ where
  ahead := h'.ahead.trans h.ahead
  log := h.log.trans h'.log
  expense := by
    have := h.expense
    have := h'.expense
    omega

theorem Spent.mono (h : Spent b t t₁) (hb : b ≤ b') : Spent b' t t₁ where
  ahead := h.ahead
  log := h.log
  expense := by
    have := h.expense
    omega

/-- Something is recorded, and nothing is done to the tokens. -/
theorem spent_record (e : Event) (hlog : t₁.log = t.log := by rfl)
    (hahead : t₁.ahead = t.ahead := by rfl) : Spent 1 t (t₁.record e) := by
  refine ⟨hahead ▸ List.suffix_refl _, ?_, ?_⟩
  · rw [State.log_record, List.length_append, hlog]
    omega
  · simp only [State.expense, State.log_record, State.toParserState_record, List.length_append,
      List.length_singleton, hlog, hahead]
    omega

/-- What leaves something over has consumed a token. -/
theorem Spent.length_lt (h : Spent b t t₁) (hb : b < 0) : t₁.ahead.length < t.ahead.length := by
  have hlog := h.log
  have hexpense := h.expense
  simp only [State.expense] at hexpense
  omega

theorem Admits.of_le (h : Admits k calls t) (hk : k' ≤ k)
    (hahead : t₁.ahead.length ≤ t.ahead.length) : Admits k' calls t₁ := by
  intro c hc
  refine le_trans ?_ (h c hc)
  rcases hahead.eq_or_lt with hahead | hahead
  · exact Prod.Lex.toLex_le_toLex.mpr (.inr ⟨hahead, hk⟩)
  · exact Prod.Lex.toLex_le_toLex.mpr (.inl hahead)

/-- Once a token is consumed everything may be called. -/
theorem Admits.of_lt (h : Admits k calls t) (hahead : t₁.ahead.length < t.ahead.length) :
    Admits k' calls t₁ := by
  intro c hc
  exact le_trans (Prod.Lex.toLex_le_toLex.mpr (.inl hahead)) (h c hc)

end States

/-! ### Readers -/

/-- The run has kept to the account and has spent no more than `b`, or `e` if it has ended with an
error. -/
inductive Pays (src : Lexemes) (calls : List OpenCall) (b e : ℤ) (t : State) :
    EStateM.Result Stop State α → Prop
  | ok {a : α} {t' : State} (hstands : Stands src calls true t') (hspent : Spent b t t') :
    Pays src calls b e t (.ok a t')
  | error {stop : Stop} {t' : State} (hstands : Stands src calls false t') (hspent : Spent e t t') :
    Pays src calls b e t (.error stop t')

/-- Run where calls at `k` are admitted and `V` holds of the tokens ahead, the reader keeps to its
account and to its budgets. -/
def Spends (src : Lexemes) (V : List Lexeme → Prop) (k : ℕ) (b e : ℤ) (p : Reader α) : Prop :=
  ∀ calls t, Stands src calls true t → Admits k calls t → V t.ahead → Pays src calls b e t (p t)

/-- Nothing is known of the tokens ahead. -/
def Any (_ : List Lexeme) : Prop := True

section Rules

variable {V : List Lexeme → Prop} {k k' : ℕ} {b b' b₁ e e' e₁ : ℤ}

theorem Pays.trans {calls : List OpenCall} {t t₁ : State} {r : EStateM.Result Stop State α}
    (h : Spent b₁ t t₁) (hr : Pays src calls b e t₁ r) : Pays src calls (b₁ + b) (b₁ + e) t r := by
  cases hr with
  | ok hstands hspent => exact .ok hstands (h.trans hspent)
  | error hstands hspent => exact .error hstands (h.trans hspent)

theorem Pays.mono {calls : List OpenCall} {t : State} {r : EStateM.Result Stop State α}
    (hr : Pays src calls b e t r) (hb : b ≤ b') (he : e ≤ e') : Pays src calls b' e' t r := by
  cases hr with
  | ok hstands hspent => exact .ok hstands (hspent.mono hb)
  | error hstands hspent => exact .error hstands (hspent.mono he)

/-- A run that stops at once costs nothing. -/
theorem Stands.stop {calls : List OpenCall} {t : State} (h : Stands src calls true t) (stop : Stop)
    (he : 0 ≤ e) : Pays src calls b e t (.error stop t : EStateM.Result Stop State α) :=
  .error h.forget ((Spent.refl t).mono he)

theorem Spends.mono {p : Reader α} (h : Spends src Any k b e p) (hb : b ≤ b' := by decide)
    (he : e ≤ e' := by decide) (hk : k ≤ k' := by decide) : Spends src V k' b' e' p :=
  fun calls t hstands hadmits _ =>
    (h calls t hstands (hadmits.of_le hk (Nat.le_refl _)) trivial).mono hb he

/-- What may be called nearer to an operand may be called further away. -/
theorem Spends.raise {p : Reader α} (h : Spends src Any k b e p) (hk : k ≤ k' := by decide) :
    Spends src V k' b e p :=
  h.mono (Int.le_refl b) (Int.le_refl e) hk

theorem spends_pure (a : α) (hb : 0 ≤ b := by decide) : Spends src V k b e (pure a : Reader α) :=
  fun _ t hstands _ _ => .ok hstands ((Spent.refl t).mono hb)

theorem spends_throw (stop : Stop) (he : 0 ≤ e := by decide) :
    Spends src V k b e (throw stop : Reader α) :=
  fun _ _ hstands _ _ => hstands.stop stop he

/-- One reader after the other; if the first has consumed something, it does not matter where the second
may be called. -/
theorem Spends.bind_at {p : Reader α} {f : α → Reader β} (hp : Spends src V k b₁ e₁ p)
    (hf : ∀ a, Spends src Any k' (b - b₁) (e - b₁) (f a)) (he : e₁ ≤ e) (hk : k' ≤ k ∨ b₁ < 0) :
    Spends src V k b e (p >>= f) := by
  intro calls t hstands hadmits hV
  have hpays := hp calls t hstands hadmits hV
  simp only [Bind.bind, EStateM.bind]
  generalize p t = outcome at hpays ⊢
  cases hpays with
  | error hstands hspent => exact .error hstands (hspent.mono he)
  | @ok a t₁ hstands₁ hspent =>
    have hadmits₁ : Admits k' calls t₁ := by
      rcases hk with hk | hb
      · exact hadmits.of_le hk hspent.ahead.length_le
      · exact hadmits.of_lt (hspent.length_lt hb)
    exact ((hf a calls t₁ hstands₁ hadmits₁ trivial).trans hspent).mono (by omega) (by omega)

theorem Spends.bind {p : Reader α} {f : α → Reader β} (hp : Spends src V k b₁ e₁ p)
    (hf : ∀ a, Spends src Any k (b - b₁) (e - b₁) (f a)) (he : e₁ ≤ e := by decide) :
    Spends src V k b e (p >>= f) :=
  hp.bind_at hf he (.inl (Nat.le_refl k))

/-- Behind a token everything may be called, as no call has more than four others to come before it
consumes one. -/
theorem Spends.bind_of_neg {p : Reader α} {f : α → Reader β} (hp : Spends src V k b₁ e₁ p)
    (hf : ∀ a, Spends src Any 5 (b - b₁) (e - b₁) (f a)) (he : e₁ ≤ e := by decide)
    (hb : b₁ < 0 := by decide) : Spends src V k b e (p >>= f) :=
  hp.bind_at hf he (.inr hb)

/-! ### Single tokens -/

/-- The reader consumes some tokens, or it stops and leaves everything as it was. -/
def Takes (V : List Lexeme → Prop) (p : Parser α) : Prop :=
  ∀ s, V s.ahead → Ensures p
    (fun _ s' => s'.ahead <:+ s.ahead ∧ s'.ahead.length < s.ahead.length) (fun _ s' => s' = s) s

theorem takes_unexpected (expected : Expectation) : Takes V (unexpected expected : Parser α) :=
  fun _ _ => ensures_unexpected (fun _ => rfl) fun _ _ _ => rfl

theorem takes_advance (hV : ∀ ahead, V ahead → ahead ≠ []) : Takes V (advance src) := by
  intro s hs
  cases hahead : s.ahead with
  | nil => exact absurd hahead (hV _ hs)
  | cons l rest =>
    exact ensures_advance hahead (fun _ => ⟨List.suffix_cons l rest, Nat.lt_succ_self _⟩)
      fun _ _ _ => rfl

theorem ne_nil_of_head? {t : Token} {ahead : List Lexeme}
    (h : ahead.head?.map Lexeme.token = some t) : ahead ≠ [] := by
  rintro rfl
  cases h

theorem takes_of_head? {t : Token} : Takes (fun ahead => ahead.head?.map Lexeme.token = some t)
    (advance src) :=
  takes_advance fun _ => ne_nil_of_head?

theorem takes_expect (t : Token) : Takes Any (expect src t) := by
  intro s _
  refine ensures_expect (fun ht => takes_of_head? (t := t) s ?_)
    fun _ => takes_unexpected (V := Any) _ s trivial
  rwa [ParserState.tokens, List.head?_map] at ht

theorem takes_memberName : Takes Any (memberName src) := by
  intro s _
  refine ensures_memberName (fun name ht => takes_of_head? (t := .identifier name) s ?_)
    fun _ => takes_unexpected (V := Any) _ s trivial
  rwa [ParserState.tokens, List.head?_map] at ht

/-- A token pays for fifteen moments. -/
theorem Stands.take {calls : List OpenCall} {ok : Bool} {t : State} {s : ParserState}
    (h : Stands src calls ok t) (hsuffix : s.ahead <:+ t.ahead)
    (hshorter : s.ahead.length < t.ahead.length) :
    Stands src calls ok { t with toParserState := s } ∧
      Spent (-15) t { t with toParserState := s } := by
  refine ⟨h.of_suffix rfl hsuffix, hsuffix, Nat.le_refl _, ?_⟩
  simp only [State.expense]
  omega

theorem spends_lift {p : Parser α} (hp : Takes V p) : Spends src V k (-15) 0 (lift p) := by
  intro calls t hstands _ hV
  have htakes := hp t.toParserState hV
  unfold Ensures at htakes
  unfold lift
  generalize p t.toParserState = outcome at htakes ⊢
  cases outcome with
  | error stop s =>
    obtain rfl : s = t.toParserState := htakes
    exact hstands.stop stop (Int.le_refl 0)
  | ok a s =>
    obtain ⟨htaken, hspent⟩ := hstands.take htakes.1 htakes.2
    exact .ok htaken hspent

theorem spends_unexpected (expected : Expectation) (he : 0 ≤ e := by decide) :
    Spends src V k b e (lift (unexpected expected) : Reader α) := by
  intro calls t hstands _ _
  simp only [lift, unexpected]
  cases t.ahead with
  | nil => exact hstands.stop _ he
  | cons l rest => exact hstands.stop _ he

/-- Looking at the next token costs nothing. -/
theorem spends_peek_bind {f : Option Token → Reader α}
    (hf : ∀ next, Spends src (fun ahead => ahead.head?.map Lexeme.token = next) k b e (f next)) :
    Spends src V k b e (lift peek >>= f) :=
  fun calls t hstands hadmits _ => hf _ calls t hstands hadmits rfl

theorem spends_ahead_bind {f : List Lexeme → Reader α}
    (hf : ∀ ls, Spends src (fun ahead => ahead = ls) k b e (f ls)) :
    Spends src V k b e (lift ahead >>= f) :=
  fun calls t hstands hadmits _ => hf t.ahead calls t hstands hadmits rfl

/-! ### Calls, levels and links -/

/-- What is called may return, since it leaves something over. -/
theorem Spends.call {p : Reader α} {r : Routine} (hp : Spends src Any r.toPrimary b e p)
    (hr : b < 0 ∨ r = .members) :
    Spends src V (r.toPrimary + 1) (b + 2) (e + 2) (Levels.call r p) := by
  intro calls t hstands hadmits _
  have hinside : Admits r.toPrimary (⟨r, t.ahead.length⟩ :: calls) (t.record (.called r)) := by
    rintro c hc
    obtain rfl := Option.some.inj hc
    exact le_refl _
  have hpays := hp _ _ (hstands.called hadmits) hinside trivial
  -- one for the call, one for the return
  have hbudget : ∀ {b : ℤ} {t' : State} {ok : Bool}, Spent b (t.record (.called r)) t' →
      Spent (b + 2) t (t'.record (.returned r ok)) := fun hspent =>
    (((spent_record _).trans hspent).trans (spent_record _)).mono (by omega)
  simp only [Levels.call, lastly]
  generalize p (t.record (.called r)) = outcome at hpays ⊢
  cases hpays with
  | error hstands hspent =>
    exact .error (hstands.returned fun hok => absurd hok Bool.false_ne_true) (hbudget hspent)
  | ok hstands hspent =>
    refine .ok (hstands.returned fun _ hne => ?_) (hbudget hspent)
    exact hspent.length_lt (hr.resolve_right hne)

/-- A level is paid for twice, where it is opened and where it is closed. -/
theorem Spends.within {p : Reader α} (hp : Spends src Any k b e p) (he : 0 ≤ e + 2 := by decide) :
    Spends src V k (b + 2) (e + 2) (Levels.within src p) := by
  intro calls t hstands hadmits _
  simp only [Levels.within, gate, Bind.bind, EStateM.bind]
  by_cases hlimit : t.depth < maxDepth
  · have hentered : Stands src calls true t.enter := hstands.record_levels rfl
    have hpays := hp calls t.enter hentered hadmits trivial
    have hbudget : ∀ {b : ℤ} {t' : State}, Spent b t.enter t' → Spent (b + 2) t t'.leave :=
      fun hspent => (((spent_record .entered).trans hspent).trans (spent_record .left)).mono (by omega)
    simp only [hlimit, if_true, lastly]
    generalize p t.enter = outcome at hpays ⊢
    cases hpays with
    | ok hstands hspent => exact .ok (hstands.record_levels rfl) (hbudget hspent)
    | error hstands hspent => exact .error (hstands.record_levels rfl) (hbudget hspent)
  · simp only [hlimit, if_false]
    exact hstands.stop _ he

/-- The links of a chain are taken off together. -/
theorem Spends.chain {p : Reader α} (hp : Spends src Any k b e p) :
    Spends src V k (b + 1) (e + 1) (Levels.chain p) := by
  intro calls t hstands hadmits _
  have hfirst : Stands src calls true (t.withLinks 0) :=
    hstands.of_suffix rfl (List.suffix_refl _)
  have hpays := hp calls (t.withLinks 0) hfirst hadmits trivial
  have hbudget : ∀ {b : ℤ} {t' : State}, Spent b (t.withLinks 0) t' →
      Spent (b + 1) t (t'.unlink t.links) := fun hspent =>
    Spent.trans ⟨hspent.ahead, hspent.log, hspent.expense⟩ (spent_record _)
  simp only [Levels.chain, lastly]
  generalize p (t.withLinks 0) = outcome at hpays ⊢
  cases hpays with
  | ok hstands hspent => exact .ok (hstands.record_levels rfl) (hbudget hspent)
  | error hstands hspent => exact .error (hstands.record_levels rfl) (hbudget hspent)

/-- A link is added behind a token that has just been consumed. -/
theorem Spends.link {p : Reader α} (hp : Spends src Any 5 (b + 14) (e + 14) p)
    (hV : ∀ ahead, V ahead → ahead ≠ []) (he : 0 ≤ e := by decide) :
    Spends src V k b e (lift (advance src) >>= fun _ => Levels.behindLink src p) := by
  intro calls t hstands hadmits hahead
  have htakes : Ensures (advance src) _ _ t.toParserState := takes_advance hV _ hahead
  unfold Ensures at htakes
  simp only [Bind.bind, EStateM.bind, lift]
  generalize advance src t.toParserState = outcome at htakes ⊢
  -- the token of the link pays for all that the link records
  cases outcome with
  | error stop s =>
    obtain rfl : s = t.toParserState := htakes
    exact hstands.stop stop he
  | ok _ s =>
    obtain ⟨htaken, hspent⟩ := hstands.take htakes.1 htakes.2
    dsimp only
    generalize ht₁ : ({ t with toParserState := s } : State) = t₁ at htaken hspent ⊢
    have hlog : t₁.log = t.log := ht₁ ▸ rfl
    have hshorter := hspent.length_lt (by decide)
    simp only [Levels.behindLink, gate, Bind.bind, EStateM.bind]
    by_cases hlimit : t₁.depth < maxDepth
    · have hlinked := hstands.linked hlog hspent.ahead hshorter
      have hpays := hp calls t₁.link hlinked (hadmits.of_lt hshorter) trivial
      simp only [hlimit, if_true]
      exact (hpays.trans (hspent.trans (spent_record _))).mono (by omega) (by omega)
    -- the link is refused: nothing more is recorded
    · simp only [hlimit, if_false]
      exact .error htaken.forget (hspent.mono (by omega))

end Rules

end Levels
end ExprLang
