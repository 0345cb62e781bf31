import ExprLang.Proofs.Derivation
import ExprLang.Proofs.Parser.Logic

/-!
# Every phrase is read

Where a phrase of the grammar lies ahead, and nothing behind it that would go on with it, the reader
of its level consumes it and answers its tree.  It may stop only for reasons that the grammar does not
know: fewer levels than the phrase takes, too little fuel, or a text that cannot be read on.

The chains of the grammar lean to the left and are derived from their last link, while they are read
from the first one on.  So what is shown of a chain is not that reading it ends, but that it comes to
a point where the loop goes on with the tree of the chain in hand and the tokens behind it in view;
the links that follow start from there, with the levels that the links before them have left.

## Main definitions

* `ExcusedWithin src room depth` — the reasons to stop that the grammar does not know, where a phrase
  has `room` levels.
* `Accepts src room p ts Q` — with the tokens `ts` ahead, the reader `p` ends with `Q`, or is excused.
* `ReadsMember`, `ReadsUnary`, `ReadsChain`, `ReadsItems` — phrases of a level are read.

## Main results

* `Derivation.reads` — every phrase is read.
-/

namespace ExprLang

/-- The reasons to stop that the grammar does not know. -/
def Excused (src : Lexemes) : Stop → ParserState → Prop
  | .outOfFuel, _ => True
  | .error e, _ => (∃ limit position, e = .tooDeeplyNested limit position) ∨ src.failure = some e

/-- The same where a number of levels is open, and too many is a reason only if there is no room for
`room` more. -/
def ExcusedWithin (src : Lexemes) (room depth : Nat) : Stop → Prop
  | .outOfFuel => True
  | .error e =>
    (maxDepth < depth + room ∧ ∃ position, e = .tooDeeplyNested maxDepth position) ∨
      src.failure = some e

/-- With the tokens `ts` ahead, and room for `room` levels, the reader ends with a result and tokens
ahead of which `Q` holds, or stops for a reason that the grammar does not know.  The levels that it
opens are closed again. -/
def Accepts {α : Type} (src : Lexemes) (room : Nat) (p : Parser α) (ts : List Token)
    (Q : α → List Token → Prop) : Prop :=
  ∀ s, s.tokens = ts → Ensures p (fun a s' => Q a s'.tokens ∧ s'.depth = s.depth)
    (fun e _ => ExcusedWithin src room s.depth e) s

section Rules

variable {src : Lexemes} {α β : Type} {Q : α → List Token → Prop} {t : Token}
  {ts rest : List Token} {room room' depth : Nat} {e : Stop}

theorem ExcusedWithin.mono (h : ExcusedWithin src room depth e) (hle : room ≤ room') :
    ExcusedWithin src room' depth e := by
  cases e with
  | outOfFuel => trivial
  | error e => exact h.imp_left fun ⟨hlt, hdeep⟩ => ⟨by omega, hdeep⟩

theorem ExcusedWithin.excused (h : ExcusedWithin src room depth e) (s : ParserState) :
    Excused src e s := by
  cases e with
  | outOfFuel => trivial
  | error e => exact h.imp_left fun ⟨_, position, hdeep⟩ => ⟨maxDepth, position, hdeep⟩

/-- With more room there are fewer reasons to stop. -/
theorem Accepts.mono {p : Parser α} (h : Accepts src room p ts Q) (hle : room ≤ room') :
    Accepts src room' p ts Q :=
  fun s hs => (h s hs).mono (fun _ _ h => h) fun _ _ he => he.mono hle

theorem accepts_pure {a : α} (h : Q a ts) : Accepts src room (pure a) ts Q := by
  rintro s rfl
  exact ⟨h, rfl⟩

theorem accepts_outOfFuel : Accepts src room (throw .outOfFuel) ts Q := by
  intro s _
  trivial

theorem accepts_bind {p : Parser β} {f : β → Parser α}
    (h : Accepts src room p ts fun b us => Accepts src room (f b) us Q) :
    Accepts src room (p >>= f) ts Q := by
  intro s hs
  rw [ensures_bind]
  refine (h s hs).imp ?_
  rintro b s' ⟨hb, hdepth⟩
  exact hdepth ▸ hb s' rfl

theorem accepts_peek {f : Option Token → Parser α} (h : Accepts src room (f ts.head?) ts Q) :
    Accepts src room (peek >>= f) ts Q := by
  rintro s rfl
  rw [ensures_bind, ensures_peek]
  exact h s rfl

theorem accepts_ahead {f : List Lexeme → Parser α}
    (h : ∀ ls, ls.map Lexeme.token = ts → Accepts src room (f ls) ts Q) :
    Accepts src room (ahead >>= f) ts Q := by
  intro s hs
  rw [ensures_bind, ensures_ahead]
  exact h s.ahead hs s hs

/-- One level is taken of those for which there is room. -/
theorem accepts_nested {p : Parser α} (h : Accepts src room p ts Q) :
    Accepts src (room + 1) (nested src p) ts Q := by
  intro s hs
  refine ensures_nested (fun _ => (h s.opened hs).mono ?_ fun e _ he => ?_) fun hlt position => ?_
  · rintro a s' ⟨hQ, hdepth⟩
    exact ⟨hQ, by rw [ParserState.depth_closed, hdepth, ParserState.depth_opened, Nat.add_sub_cancel]⟩
  · rw [ParserState.depth_opened] at he
    cases e with
    | outOfFuel => trivial
    | error e => exact he.imp_left fun ⟨hlt, hdeep⟩ => ⟨by omega, hdeep⟩
  · exact .inl ⟨by omega, position, rfl⟩

theorem accepts_advance {Q : Unit → List Token → Prop} (h : Q () rest) :
    Accepts src room (advance src) (t :: rest) Q := by
  intro s hs
  cases ha : s.ahead with
  | nil => simp [ParserState.tokens, ha] at hs
  | cons l ls =>
    refine ensures_advance ha (fun _ => ⟨?_, rfl⟩) fun e _ he => .inr he
    simp only [ParserState.tokens, ha, List.map_cons, List.cons.injEq] at hs ⊢
    exact hs.2 ▸ h

theorem accepts_expect {Q : Unit → List Token → Prop} (h : Q () rest) :
    Accepts src room (expect src t) (t :: rest) Q := by
  intro s hs
  exact ensures_expect (fun _ => accepts_advance h s hs) fun hne => absurd (by simp [hs]) hne

theorem accepts_memberName {Q : String → List Token → Prop} {name : String} (h : Q name rest) :
    Accepts src room (memberName src) (.identifier name :: rest) Q := by
  intro s hs
  refine ensures_memberName (fun name' hname => ?_) fun hne => absurd (by simp [hs]) (hne name)
  obtain rfl : name = name' := by simpa [hs] using hname
  exact accepts_advance (Q := fun _ => Q name) h s hs

end Rules

/-! ### Phrases that are read -/

/-- The tokens do not go on with a chain of member accesses, nor with arguments of a call. -/
def NoLink (rest : List Token) : Prop :=
  ∀ t ∈ rest.head?, t ≠ .dot ∧ t ≠ .safeDot ∧ t ≠ .leftBracket ∧ t ≠ .leftParen

section

variable (src : Lexemes)

/-- With room for the phrase, the reader of chains of member accesses comes to the end of it with its
tree in hand, and with the levels that its links have left. -/
def ReadsMember (d : Derivation .member) : Prop :=
  ∀ (rest : List Token) (Q : Expr → List Token → Prop) (room : Nat),
    rest.head? ≠ some .leftParen → d.need ≤ room →
      (∀ fuel, Accepts src (room - d.links) (members src fuel d.tree) rest Q) →
      ∀ fuel, Accepts src room (primary src fuel >>= members src fuel) (d.tokens ++ rest) Q

/-- The phrase is read as an operand with the operators before it. -/
def ReadsUnary (d : Derivation .unary) : Prop :=
  ∀ (rest : List Token) (Q : Expr → List Token → Prop) (room : Nat), NoLink rest →
    d.need ≤ room → Q d.tree rest →
      ∀ fuel, Accepts src room (unary src fuel) (d.tokens ++ rest) Q

/-- With room for the phrase, the loop over operators, at every level that is weak enough, comes to
the end of it with its tree in hand, and with the levels that its links have left. -/
def ReadsChain {p : Precedence} (d : Derivation p) : Prop :=
  ∀ (least : Precedence), least.level ≤ p.level →
    ∀ (rest : List Token) (Q : Expr → List Token → Prop) (room : Nat), NoLink rest →
      Follows p rest → d.need ≤ room →
        (∀ fuel, Accepts src (room - d.links) (operators src fuel least d.tree) rest Q) →
        ∀ fuel, Accepts src room (unary src fuel >>= operators src fuel least) (d.tokens ++ rest) Q

/-- The link is read behind a chain of member accesses, for which it takes a level. -/
def ReadsAccess (a : Access) : Prop :=
  ∀ (e : Expr) (rest : List Token) (Q : Expr → List Token → Prop) (room : Nat),
    rest.head? ≠ some .leftParen → a.need ≤ room →
      (∀ fuel, Accepts src room (members src fuel (a.onto e)) rest Q) →
      ∀ fuel, Accepts src (room + 1) (members src fuel e) (a.tokens ++ rest) Q

/-- Phrases with commas between are read up to the token that closes them. -/
def ReadsItems (items : Items) : Prop :=
  ∀ (closer : Token), closer = .rightParen ∨ closer = .rightBrace →
    ∀ (rest : List Token) (Q : List Expr → List Token → Prop) (room : Nat), items.need ≤ room →
      Q items.trees rest →
        ∀ fuel, Accepts src room (elements src fuel closer) (items.tokens ++ closer :: rest) Q

/-- At least one phrase is read up to the token that closes them. -/
def ReadsMore (items : More) : Prop :=
  ∀ (closer : Token), closer = .rightParen ∨ closer = .rightBrace →
    ∀ (rest : List Token) (Q : List Expr → List Token → Prop) (room : Nat), items.need ≤ room →
      Q items.trees rest →
        ∀ fuel, Accepts src room (moreElements src fuel closer) (items.tokens ++ closer :: rest) Q

/-- A phrase is read by the reader of its level. -/
def ReadsPhrase : {p : Precedence} → Derivation p → Prop
  | .member, d => ReadsMember src d
  | .unary, d => ReadsUnary src d
  | _, d => ReadsChain src d

end

variable {src : Lexemes} {ts rest : List Token} {e : Expr} {room : Nat}

attribute [local simp] Derivation.tokens Access.tokens Items.tokens More.tokens

/-! ### Where the loops end -/

theorem accepts_members_done {Q : Expr → List Token → Prop} (hlink : NoLink ts) (hQ : Q e ts)
    (fuel : Nat) : Accepts src room (members src fuel e) ts Q := by
  cases fuel with
  | zero => rw [members]; exact accepts_outOfFuel
  | succ fuel =>
    have hdot : ts.head? ≠ some .dot := fun h => (hlink _ h).1 rfl
    have hsafe : ts.head? ≠ some .safeDot := fun h => (hlink _ h).2.1 rfl
    have hbracket : ts.head? ≠ some .leftBracket := fun h => (hlink _ h).2.2.1 rfl
    rw [members]
    refine accepts_peek ?_
    rw [if_neg (by simp [hdot, hsafe]), if_neg hbracket]
    exact accepts_pure hQ

theorem accepts_operators_done {least : Precedence} {Q : Expr → List Token → Prop}
    (hends : Ends least ts) (hQ : Q e ts) (fuel : Nat) :
    Accepts src room (operators src fuel least e) ts Q := by
  cases fuel with
  | zero => rw [operators]; exact accepts_outOfFuel
  | succ fuel =>
    -- no operator that the loop would take follows, so it ends at once
    have hlink : ∀ t p, ts.head? = some t → t.level? = some p → ¬ least.admits p := by
      intro t p ht hp
      have := hends t ht p hp
      rw [Precedence.admits_iff]
      omega
    rw [operators]
    refine accepts_peek ?_
    split
    case h_1 ht => rw [if_neg (hlink _ _ ht rfl)]; exact accepts_pure hQ
    case h_2 ht => rw [if_neg (hlink _ _ ht rfl)]; exact accepts_pure hQ
    case h_3 op ht => rw [if_neg (hlink _ _ ht rfl)]; exact accepts_pure hQ
    case h_4 => exact accepts_pure hQ

/-! ### Chains of operators -/

section

variable {p : Precedence} {Q : Expr → List Token → Prop}

/-- A phrase with nothing behind it that goes on with it is read as an expression. -/
theorem ReadsChain.expression {d : Derivation p} (h : ReadsChain src d) (hlink : NoLink rest)
    (hfollows : Follows p rest) (hends : Ends p rest) (hroom : d.charge ≤ room)
    (hQ : Q d.tree rest) (fuel : Nat) :
    Accepts src room (expression src fuel p) (d.tokens ++ rest) Q := by
  obtain ⟨r, rfl⟩ := Nat.exists_eq_add_one_of_ne_zero (Nat.ne_zero_of_lt hroom)
  cases fuel with
  | zero => rw [ExprLang.expression]; exact accepts_outOfFuel
  | succ fuel =>
    rw [ExprLang.expression]
    exact accepts_nested (h p (Nat.le_refl _) rest Q r hlink hfollows (Nat.le_of_succ_le_succ hroom)
      (accepts_operators_done hends hQ) fuel)

/-- An expression before a token that goes on with no phrase. -/
theorem ReadsChain.expression_before {d : Derivation .ternary} {t : Token} (h : ReadsChain src d)
    (hlink : NoLink (t :: rest)) (hlevel : t.level? = none) (hroom : d.charge ≤ room)
    (hQ : Q d.tree (t :: rest)) (fuel : Nat) :
    Accepts src room (ExprLang.expression src fuel .ternary) (d.tokens ++ t :: rest) Q := by
  have hnone : ∀ t' ∈ (t :: rest).head?, t'.level? = none := by simpa using hlevel
  exact h.expression hlink (follows_of_level?_eq_none hnone) (ends_of_level?_eq_none hnone) hroom hQ
    fuel

theorem ReadsUnary.chain {d : Derivation .unary} (h : ReadsUnary src d) : ReadsChain src d := by
  intro least _ rest Q room hlink _ hneed hrest fuel
  exact accepts_bind (h rest _ room hlink hneed ((hrest fuel).mono (Nat.sub_le _ _)) fuel)

theorem ReadsChain.tighter {d : Derivation p.next} (h : ReadsChain src d) (hp : p ≠ .unary) :
    ReadsChain src (.tighter d : Derivation p) := by
  intro least hle rest Q room hlink hfollows hneed hrest
  have hlinks : (Derivation.tighter d : Derivation p).links = d.links := if_neg hp
  rw [hlinks] at hrest
  exact h least (Nat.le_trans hle p.level_le_next) rest Q room hlink
    (hfollows.mono p.level_le_next) hneed hrest

theorem ReadsChain.binary {op : BinaryOperator} {l : Derivation p} {r : Derivation p.next}
    (hp : op.precedence = p) (hl : ReadsChain src l) (hr : ReadsChain src r) :
    ReadsChain src (.binary op hp l r) := by
  subst hp
  intro least hle rest Q room hlink hfollows hneed hrest fuel
  rw [Derivation.tokens, List.append_assoc, List.cons_append]
  obtain ⟨hleft, hright⟩ := Nat.max_le.mp hneed
  -- the loop comes to the operator with the left operand in hand, and goes on from there
  refine hl least hle _ Q room (by simp [NoLink]) (follows_operator op _) hleft (fun fuel => ?_) fuel
  cases fuel with
  | zero => rw [operators]; exact accepts_outOfFuel
  | succ fuel =>
    have hone : room - l.links = room - (l.links + 1) + 1 := by omega
    rw [operators, hone]
    refine accepts_peek ?_
    simp only [List.head?_cons]
    rw [if_pos (Precedence.admits_iff.mpr hle)]
    refine accepts_bind (accepts_advance (accepts_nested (accepts_bind ?_)))
    exact hr.expression hlink (hfollows.mono op.precedence.level_le_next) hfollows.ends_next
      (Nat.le_sub_of_add_le' hright) (hrest fuel) fuel

theorem ReadsChain.conditional {c : Derivation .or} {t f : Derivation .ternary}
    (hc : ReadsChain src c) (ht : ReadsChain src t) (hf : ReadsChain src f) :
    ReadsChain src (.conditional c t f) := by
  intro least hle rest Q room hlink hfollows hneed hrest fuel
  simp only [Derivation.tokens, List.append_assoc, List.cons_append]
  have hadmits := Precedence.admits_iff.mpr hle
  obtain ⟨hcondition, hbranches⟩ := Nat.max_le.mp hneed
  refine hc least (Nat.le_trans hle (by decide)) _ Q room (by simp [NoLink]) (follows_or rfl _)
    hcondition (fun fuel => ?_) fuel
  cases fuel with
  | zero => rw [operators]; exact accepts_outOfFuel
  | succ fuel =>
    have hone : room - c.links = room - (c.links + 1) + 1 := by omega
    rw [operators, hone]
    refine accepts_peek ?_
    simp only [List.head?_cons]
    rw [if_pos hadmits]
    refine accepts_bind (accepts_advance (accepts_nested (accepts_bind ?_)))
    -- no phrase goes on with a colon
    have htrue : t.charge ≤ room - (c.links + 1) := by unfold Derivation.charge; omega
    have hfalse : f.charge ≤ room - (c.links + 1) := by unfold Derivation.charge; omega
    refine ht.expression_before (by simp [NoLink]) rfl htrue ?_ fuel
    refine accepts_bind (accepts_expect (accepts_bind ?_))
    exact hf.expression hlink hfollows hfollows.ends hfalse (hrest fuel) fuel

theorem ReadsChain.elvis {v : Derivation .or} {f : Derivation .ternary} (hv : ReadsChain src v)
    (hf : ReadsChain src f) : ReadsChain src (.elvis v f) := by
  intro least hle rest Q room hlink hfollows hneed hrest fuel
  rw [Derivation.tokens, List.append_assoc, List.cons_append]
  have hadmits := Precedence.admits_iff.mpr hle
  obtain ⟨hvalue, hfallback⟩ := Nat.max_le.mp hneed
  -- the value is read first, and the loop that read it goes on with the elvis link
  refine hv least (Nat.le_trans hle (by decide)) _ Q room (by simp [NoLink]) (follows_or rfl _)
    hvalue (fun fuel => ?_) fuel
  cases fuel with
  | zero => rw [operators]; exact accepts_outOfFuel
  | succ fuel =>
    have hone : room - v.links = room - (v.links + 1) + 1 := by omega
    rw [operators, hone]
    refine accepts_peek ?_
    simp only [List.head?_cons]
    rw [if_pos hadmits]
    refine accepts_bind (accepts_advance (accepts_nested (accepts_bind ?_)))
    exact hf.expression hlink hfollows hfollows.ends (Nat.le_sub_of_add_le' hfallback) (hrest fuel)
      fuel

end

/-! ### Operators before an operand -/

theorem ReadsUnary.unary (op : UnaryOperator) {d : Derivation .unary} (h : ReadsUnary src d) :
    ReadsUnary src (.unary op d) := by
  intro rest Q room hlink hneed hQ fuel
  obtain ⟨r, rfl⟩ := Nat.exists_eq_add_one_of_ne_zero (Nat.ne_zero_of_lt hneed)
  have hoperand : d.need ≤ r := Nat.le_of_succ_le_succ hneed
  cases fuel with
  | zero => rw [ExprLang.unary]; exact accepts_outOfFuel
  | succ fuel =>
    rw [ExprLang.unary]
    cases op with
    | negate | not =>
      refine accepts_peek (accepts_bind (accepts_advance (accepts_bind (accepts_nested ?_))))
      exact h rest _ r hlink hoperand (accepts_pure hQ) fuel

/-- A chain of member accesses is an operand without operators before it. -/
theorem ReadsMember.unary {d : Derivation .member} (h : ReadsMember src d) :
    ReadsUnary src (.tighter d) := by
  intro rest Q room hlink hneed hQ fuel
  obtain ⟨t, us, htokens, -, ht⟩ := d.derives.exists_cons
  have hstarts := ht rfl
  have hread := h rest Q room (fun hp => (hlink _ hp).2.2.2 rfl) hneed (accepts_members_done hlink hQ)
  have htighter : (Derivation.tighter d : Derivation .unary).tokens = t :: us := htokens
  rw [htokens] at hread
  rw [htighter]
  cases fuel with
  | zero => rw [ExprLang.unary]; exact accepts_outOfFuel
  | succ fuel =>
    rw [ExprLang.unary]
    refine accepts_peek ?_
    simp only [List.cons_append, List.head?_cons] at hread ⊢
    -- what begins a chain is neither of the two operators
    split
    · next heq =>
      cases heq
      cases hstarts
    · next heq =>
      cases heq
      cases hstarts
    · exact hread fuel

/-! ### Chains of member accesses -/

/-- What begins a chain is read before the links behind it. -/
theorem readsMember_of_primary {d : Derivation .member} (hlinks : d.links = 0)
    (h : ∀ (rest : List Token) (Q : Expr → List Token → Prop) (room : Nat), d.need ≤ room →
      Q d.tree rest → ∀ fuel, Accepts src room (primary src fuel) (d.tokens ++ rest) Q) :
    ReadsMember src d := by
  intro rest Q room _ hneed hrest fuel
  rw [hlinks] at hrest
  exact accepts_bind (h rest _ room hneed (hrest fuel) fuel)

theorem readsMember_atom {t : Token} (h : Atom t e) : ReadsMember src (.atom h) := by
  refine readsMember_of_primary rfl fun rest Q room _ hQ fuel => ?_
  cases fuel with
  | zero => rw [primary]; exact accepts_outOfFuel
  | succ fuel =>
    rw [primary]
    refine accepts_ahead fun _ hs => ?_
    obtain ⟨l, _, rfl, rfl, -⟩ := List.map_eq_cons_iff.mp hs
    simp only [atom?_eq_some_iff.mpr h]
    exact accepts_bind (accepts_advance (accepts_pure hQ))

theorem ReadsChain.parens {d : Derivation .ternary} (h : ReadsChain src d) :
    ReadsMember src (.parens d) := by
  refine readsMember_of_primary rfl fun rest Q room hneed hQ fuel => ?_
  rw [Derivation.tokens, List.cons_append, List.append_assoc]
  cases fuel with
  | zero => rw [primary]; exact accepts_outOfFuel
  | succ fuel =>
    rw [primary]
    refine accepts_ahead fun _ hs => ?_
    obtain ⟨l, _, rfl, ht, -⟩ := List.map_eq_cons_iff.mp hs
    have hatom : atom? l = none := by simp [atom?, ht]
    simp only [hatom, ht]
    refine accepts_bind (accepts_advance (accepts_bind ?_))
    refine h.expression_before (by simp [NoLink]) rfl hneed ?_ fuel
    exact accepts_bind (accepts_expect (accepts_pure hQ))

theorem ReadsItems.list {items : Items} (h : ReadsItems src items) :
    ReadsMember src (.list items) := by
  refine readsMember_of_primary rfl fun rest Q room hneed hQ fuel => ?_
  rw [Derivation.tokens, List.cons_append, List.append_assoc]
  cases fuel with
  | zero => rw [primary]; exact accepts_outOfFuel
  | succ fuel =>
    rw [primary]
    refine accepts_ahead fun _ hs => ?_
    obtain ⟨l, _, rfl, ht, -⟩ := List.map_eq_cons_iff.mp hs
    have hatom : atom? l = none := by simp [atom?, ht]
    simp only [hatom, ht]
    refine accepts_bind (accepts_advance (accepts_bind ?_))
    exact h .rightBrace (.inr rfl) rest _ room hneed (accepts_pure hQ) fuel

theorem memberDot_ne_leftParen (nullSafe : Bool) : memberDot nullSafe ≠ .leftParen := by
  cases nullSafe <;> simp [memberDot]

theorem Access.head?_ne_leftParen (a : Access) : (a.tokens ++ rest).head? ≠ some .leftParen := by
  cases a <;> simp [memberDot_ne_leftParen]

/-- A dot and a name behind it are consumed, with the kind of the dot noted. -/
theorem accepts_dot {Q : Expr → List Token → Prop} (nullSafe : Bool) (name : String)
    (h : ∀ fuel, Accepts src room (do
        if (← peek) = some .leftParen then
          advance src
          let arguments ← elements src fuel .rightParen
          members src fuel (.call e name arguments nullSafe)
        else members src fuel (.property e name nullSafe)) ts Q) (fuel : Nat) :
    Accepts src (room + 1) (members src fuel e) (memberDot nullSafe :: .identifier name :: ts) Q := by
  cases fuel with
  | zero => rw [members]; exact accepts_outOfFuel
  | succ fuel =>
    rw [members]
    refine accepts_peek ?_
    -- the reader notes the kind of the dot by comparing it with the null-safe one
    cases nullSafe with
    | false =>
      simp only [memberDot]
      refine accepts_bind (accepts_advance (accepts_nested (accepts_bind (accepts_memberName ?_))))
      exact h fuel
    | true =>
      refine accepts_bind (accepts_advance (accepts_nested (accepts_bind (accepts_memberName ?_))))
      exact h fuel

theorem readsAccess_property (nullSafe : Bool) (name : String) :
    ReadsAccess src (.property nullSafe name) := by
  intro e rest Q room hparen _ hrest fuel
  simp only [Access.tokens, List.cons_append, List.nil_append]
  refine accepts_dot nullSafe name (fun fuel => accepts_peek ?_) fuel
  rw [if_neg hparen]
  exact hrest fuel

theorem ReadsItems.call {items : Items} (nullSafe : Bool) (name : String)
    (h : ReadsItems src items) : ReadsAccess src (.call nullSafe name items) := by
  intro e rest Q room _ hneed hrest fuel
  simp only [Access.tokens, List.append_assoc, List.cons_append]
  refine accepts_dot nullSafe name (fun fuel => accepts_peek ?_) fuel
  rw [List.head?_cons, if_pos rfl]
  refine accepts_bind (accepts_advance (accepts_bind ?_))
  exact h .rightParen (.inl rfl) rest _ room hneed (hrest fuel) fuel

theorem ReadsChain.index {d : Derivation .ternary} (h : ReadsChain src d) :
    ReadsAccess src (.index d) := by
  intro e rest Q room _ hneed hrest fuel
  simp only [Access.tokens, List.append_assoc, List.cons_append]
  cases fuel with
  | zero => rw [members]; exact accepts_outOfFuel
  | succ fuel =>
    rw [members]
    refine accepts_peek ?_
    rw [if_neg (by simp), List.head?_cons, if_pos rfl]
    refine accepts_bind (accepts_advance (accepts_nested (accepts_bind ?_)))
    refine h.expression_before (by simp [NoLink]) rfl hneed ?_ fuel
    exact accepts_bind (accepts_expect (hrest fuel))

theorem ReadsMember.access {b : Derivation .member} {a : Access} (hb : ReadsMember src b)
    (ha : ReadsAccess src a) : ReadsMember src (.access b a) := by
  intro rest Q room hparen hneed hrest fuel
  rw [Derivation.tokens, List.append_assoc]
  obtain ⟨hbase, hlink⟩ := Nat.max_le.mp hneed
  refine hb _ Q room a.head?_ne_leftParen hbase (fun fuel => ?_) fuel
  have hone : room - b.links = room - (b.links + 1) + 1 := by omega
  rw [hone]
  exact ha b.tree rest Q _ hparen (Nat.le_sub_of_add_le' hlink) hrest fuel

/-! ### Lists and arguments -/

theorem readsItems_none : ReadsItems src .none := by
  intro closer _ rest Q room _ hQ fuel
  cases fuel with
  | zero => rw [elements]; exact accepts_outOfFuel
  | succ fuel =>
    rw [elements]
    refine accepts_peek ?_
    rw [Items.tokens, List.nil_append, List.head?_cons, if_pos rfl]
    exact accepts_bind (accepts_advance (accepts_pure hQ))

theorem ReadsChain.last {d : Derivation .ternary} (h : ReadsChain src d) :
    ReadsMore src (.last d) := by
  intro closer hcloser rest Q room hneed hQ fuel
  have hlink : NoLink (closer :: rest) := by rcases hcloser with rfl | rfl <;> simp [NoLink]
  have hlevel : closer.level? = Option.none := by rcases hcloser with rfl | rfl <;> rfl
  have hcomma : some closer ≠ some .comma := by rcases hcloser with rfl | rfl <;> simp
  cases fuel with
  | zero => rw [moreElements]; exact accepts_outOfFuel
  | succ fuel =>
    rw [moreElements]
    refine accepts_bind (h.expression_before hlink hlevel hneed (accepts_peek ?_) fuel)
    rw [List.head?_cons, if_neg hcomma, if_pos rfl]
    exact accepts_bind (accepts_advance (accepts_pure hQ))

theorem ReadsMore.cons {d : Derivation .ternary} {items : More} (h : ReadsChain src d)
    (hs : ReadsMore src items) : ReadsMore src (.cons d items) := by
  intro closer hcloser rest Q room hneed hQ fuel
  rw [More.tokens, List.append_assoc, List.cons_append]
  obtain ⟨hitem, hitems⟩ := Nat.max_le.mp hneed
  cases fuel with
  | zero => rw [moreElements]; exact accepts_outOfFuel
  | succ fuel =>
    rw [moreElements]
    refine accepts_bind (h.expression_before (by simp [NoLink]) rfl hitem (accepts_peek ?_) fuel)
    rw [List.head?_cons, if_pos rfl]
    refine accepts_bind (accepts_advance (accepts_bind ?_))
    exact hs closer hcloser rest _ room hitems (accepts_pure hQ) fuel

theorem More.exists_cons (items : More) : ∃ t us, items.tokens = t :: us ∧ t.startsOperand := by
  cases items with
  | last d =>
    obtain ⟨t, us, htokens, ht, -⟩ := d.derives.exists_cons
    exact ⟨t, us, htokens, ht⟩
  | cons d items =>
    obtain ⟨t, us, htokens, ht, -⟩ := d.derives.exists_cons
    exact ⟨t, _, by rw [More.tokens, htokens, List.cons_append], ht⟩

/-- What does not begin with the closing token begins with a phrase. -/
theorem ReadsMore.items {items : More} (h : ReadsMore src items) :
    ReadsItems src (.more items) := by
  intro closer hcloser rest Q room hneed hQ fuel
  obtain ⟨t, us, htokens, ht⟩ := items.exists_cons
  have hread := h closer hcloser rest Q room hneed hQ
  have hne : some t ≠ some closer := by
    rintro ⟨⟩
    rcases hcloser with rfl | rfl <;> cases ht
  rw [Items.tokens, htokens]
  rw [htokens] at hread
  cases fuel with
  | zero => rw [elements]; exact accepts_outOfFuel
  | succ fuel =>
    rw [elements]
    refine accepts_peek ?_
    rw [List.cons_append, List.head?_cons, if_neg hne]
    exact hread fuel

/-! ### All phrases -/

section

variable {p : Precedence}

theorem readsPhrase_iff_chain {d : Derivation p} (hmember : p ≠ .member) (hunary : p ≠ .unary) :
    ReadsPhrase src d ↔ ReadsChain src d := by
  cases p <;> first | exact Iff.rfl | contradiction

/-- A phrase is read in the loop over operators, unless it need not be one of operators. -/
theorem ReadsPhrase.chain {d : Derivation p} (h : ReadsPhrase src d) (hp : p ≠ .member) :
    ReadsChain src d := by
  cases p with
  | member => contradiction
  | unary => exact ReadsUnary.chain h
  | _ => exact h

theorem ReadsMember.tighter {d : Derivation .member} (h : ReadsMember src d) :
    ReadsMember src (.tighter d : Derivation .member) := h

theorem ReadsPhrase.tighter {d : Derivation p.next} (h : ReadsPhrase src d) :
    ReadsPhrase src (.tighter d : Derivation p) := by
  cases p with
  | member => exact ReadsMember.tighter h
  | unary => exact ReadsMember.unary h
  | multiplicative => exact (h.chain (by simp [Precedence.next])).tighter (by simp)
  | _ => exact ReadsChain.tighter h (by simp)

end

mutual

/-- Every phrase is read. -/
theorem Derivation.reads : {p : Precedence} → (d : Derivation p) → ReadsPhrase src d
  | _, .tighter d => d.reads.tighter
  | _, .conditional c t f => ReadsChain.conditional c.reads t.reads f.reads
  | _, .elvis v f => ReadsChain.elvis v.reads f.reads
  | p, .binary op hp l r => by
    have hmember : p ≠ .member := by cases op <;> simp [← hp, BinaryOperator.precedence]
    have hunary : p ≠ .unary := by cases op <;> simp [← hp, BinaryOperator.precedence]
    have hnext : p.next ≠ .member := hp ▸ op.next_precedence_ne_member
    -- the levels of binary operators are those of chains
    rw [readsPhrase_iff_chain hmember hunary]
    exact .binary hp (l.reads.chain hmember) (r.reads.chain hnext)
  | _, .unary op d => ReadsUnary.unary op d.reads
  | _, .access b a => ReadsMember.access b.reads a.reads
  | _, .atom h => readsMember_atom h
  | _, .parens d => ReadsChain.parens d.reads
  | _, .list items => ReadsItems.list items.reads

theorem Access.reads : (a : Access) → ReadsAccess src a
  | .property nullSafe name => readsAccess_property nullSafe name
  | .call nullSafe name items => items.reads.call nullSafe name
  | .index d => ReadsChain.index d.reads

theorem Items.reads : (items : Items) → ReadsItems src items
  | .none => readsItems_none
  | .more items => items.reads.items

theorem More.reads : (items : More) → ReadsMore src items
  | .last d => ReadsChain.last d.reads
  | .cons d items => .cons d.reads items.reads

end

end ExprLang
