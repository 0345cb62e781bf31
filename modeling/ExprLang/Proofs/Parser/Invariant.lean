import ExprLang.Proofs.Parser.Logic

/-!
# Invariants of reading

The readers of the grammar do no more to a state than to consume tokens, and to open and close levels.
A property of states that these steps keep is kept by all of the readers; and the reasons for which
they stop are those that a single step has, in a state with the property.

## Main definitions

* `Invariant src I E` — single steps keep `I`, and stop only for the reasons `E`.
* `Keeps I E p` — the reader `p` keeps `I`, and stops only for the reasons `E`.

## Main results

* `Invariant.keeps` — all readers keep what single steps keep.
-/

namespace ExprLang

/-- The single steps of reading keep the property `I` of states, and `E` holds of the reasons for which
they stop in such states. -/
structure Invariant (src : Lexemes) (I : ParserState → Prop) (E : Stop → Prop) : Prop where
  opened : ∀ {s}, I s → s.depth < maxDepth → I s.opened
  closed : ∀ {s}, I s → I s.closed
  advanced : ∀ {s l rest}, I s → s.ahead = l :: rest → (rest = [] → src.failure = none) →
    I { s with ahead := rest }
  /-- Behind the last token the text may go on with what is none. -/
  failed : ∀ {e}, src.failure = some e → E (.error e)
  deep : ∀ {s}, I s → E (.error (.tooDeeplyNested maxDepth (s.viewed src)))
  unexpectedEnd : ∀ {s}, I s → s.ahead = [] → ∀ expected, E (.error (.unexpectedEnd expected))
  unexpectedToken : ∀ {s l rest}, I s → s.ahead = l :: rest → ∀ expected,
    E (.error (.unexpectedToken l.token expected l.start))
  literal : ∀ {s l rest e}, I s → s.ahead = l :: rest → atom? l = some (.error e) → E (.error e)
  fuel : E .outOfFuel

/-- From a state with the property `I` the reader comes to another one with it, or stops for a reason
of which `E` holds. -/
def Keeps {α : Type} (I : ParserState → Prop) (E : Stop → Prop) (p : Parser α) : Prop :=
  ∀ s, I s → Ensures p (fun _ => I) (fun e _ => E e) s

section

variable {src : Lexemes} {I : ParserState → Prop} {E : Stop → Prop} {α β : Type}

/-! ### Putting readers together -/

theorem keeps_pure (a : α) : Keeps I E (pure a) := fun _ hs => hs

theorem keeps_peek : Keeps I E peek := fun _ hs => ensures_peek.mpr hs

theorem Keeps.bind {p : Parser α} {f : α → Parser β} (hp : Keeps I E p) (hf : ∀ a, Keeps I E (f a)) :
    Keeps I E (p >>= f) := by
  intro s hs
  rw [ensures_bind]
  exact (hp s hs).imp fun a s' hs' => hf a s' hs'

namespace Invariant

variable (h : Invariant src I E)
include h

theorem throw_outOfFuel : Keeps I E (throw .outOfFuel : Parser α) := fun _ _ => h.fuel

theorem advance : Keeps I E (advance src) := by
  intro s hs
  cases hahead : s.ahead with
  | nil => simpa [Ensures, ExprLang.advance, hahead] using hs
  | cons l rest =>
    exact ensures_advance hahead (h.advanced hs hahead) fun e _ he => h.failed he

theorem unexpected (expected : Expectation) : Keeps I E (unexpected expected : Parser α) :=
  fun _ hs => ensures_unexpected (fun hahead => h.unexpectedEnd hs hahead expected)
    fun _ _ hahead => h.unexpectedToken hs hahead expected

theorem nested {p : Parser α} (hp : Keeps I E p) : Keeps I E (nested src p) := by
  intro s hs
  refine ensures_nested_at (fun hlt => ?_) fun _ => h.deep hs
  exact (hp s.opened (h.opened hs hlt)).imp fun _ _ hs' => h.closed hs'

theorem expect (t : Token) : Keeps I E (expect src t) :=
  fun s hs => ensures_expect (fun _ => h.advance s hs) fun _ => h.unexpected _ s hs

theorem memberName : Keeps I E (memberName src) :=
  fun s hs => ensures_memberName (fun _ _ => h.advance s hs) fun _ => h.unexpected _ s hs

end Invariant

/-! ### The readers -/

/-- All readers keep the property with some fuel. -/
structure AllKeep (src : Lexemes) (I : ParserState → Prop) (E : Stop → Prop) (fuel : Nat) : Prop where
  expression : ∀ least, Keeps I E (expression src fuel least)
  operators : ∀ least left, Keeps I E (operators src fuel least left)
  unary : Keeps I E (unary src fuel)
  primary : Keeps I E (primary src fuel)
  elements : ∀ closer, Keeps I E (elements src fuel closer)
  moreElements : ∀ closer, Keeps I E (moreElements src fuel closer)
  members : ∀ base, Keeps I E (members src fuel base)

namespace Invariant

variable {fuel : Nat} (h : Invariant src I E)
include h

theorem allKeep_zero : AllKeep src I E 0 where
  expression _ := by
    rw [expression]
    exact h.throw_outOfFuel
  operators _ _ := by
    rw [operators]
    exact h.throw_outOfFuel
  unary := by
    rw [unary]
    exact h.throw_outOfFuel
  primary := by
    rw [primary]
    exact h.throw_outOfFuel
  elements _ := by
    rw [elements]
    exact h.throw_outOfFuel
  moreElements _ := by
    rw [moreElements]
    exact h.throw_outOfFuel
  members _ := by
    rw [members]
    exact h.throw_outOfFuel

theorem operators_keeps (ih : AllKeep src I E fuel) (least : Precedence) (left : Expr) :
    Keeps I E (operators src (fuel + 1) least left) := by
  rw [operators]
  refine keeps_peek.bind fun t => ?_
  split
  · -- a conditional
    split
    · refine h.advance.bind fun _ => h.nested ?_
      refine (ih.expression _).bind fun _ => (h.expect _).bind fun _ => ?_
      exact (ih.expression _).bind fun _ => ih.operators _ _
    · exact keeps_pure _
  · -- a fallback
    split
    · refine h.advance.bind fun _ => h.nested ?_
      exact (ih.expression _).bind fun _ => ih.operators _ _
    · exact keeps_pure _
  · -- a binary operator
    split
    · refine h.advance.bind fun _ => h.nested ?_
      exact (ih.expression _).bind fun _ => ih.operators _ _
    · exact keeps_pure _
  · exact keeps_pure _

theorem unary_keeps (ih : AllKeep src I E fuel) : Keeps I E (unary src (fuel + 1)) := by
  rw [unary]
  refine keeps_peek.bind fun t => ?_
  split
  · exact h.advance.bind fun _ => (h.nested ih.unary).bind fun _ => keeps_pure _
  · exact h.advance.bind fun _ => (h.nested ih.unary).bind fun _ => keeps_pure _
  · exact ih.primary.bind fun _ => ih.members _

theorem primary_keeps (ih : AllKeep src I E fuel) : Keeps I E (primary src (fuel + 1)) := by
  intro s hs
  simp only [primary, Parser.plain]
  rw [ensures_bind, ensures_ahead]
  split
  case h_1 => exact h.unexpected _ s hs
  case h_2 l rest hahead =>
    rw [ensures_bind]
    -- the errors of the token are known from the state in which it was still ahead
    refine (h.advance s hs).imp fun _ s₁ hs₁ => ?_
    split
    case h_1 => exact hs₁
    case h_2 e _ hatom => exact h.literal hs hahead hatom
    case h_3 =>
      refine Keeps.bind (ih.expression _) (fun _ => ?_) s₁ hs₁
      exact (h.expect _).bind fun _ => keeps_pure _
    case h_4 => exact Keeps.bind (ih.elements _) (fun _ => keeps_pure _) s₁ hs₁
    case h_5 => exact h.unexpectedToken hs hahead _

theorem elements_keeps (ih : AllKeep src I E fuel) (closer : Token) :
    Keeps I E (elements src (fuel + 1) closer) := by
  rw [elements]
  refine keeps_peek.bind fun t => ?_
  split
  · exact h.advance.bind fun _ => keeps_pure _
  · exact ih.moreElements closer

theorem moreElements_keeps (ih : AllKeep src I E fuel) (closer : Token) :
    Keeps I E (moreElements src (fuel + 1) closer) := by
  rw [moreElements]
  refine (ih.expression _).bind fun _ => keeps_peek.bind fun t => ?_
  split
  · exact h.advance.bind fun _ => (ih.moreElements closer).bind fun _ => keeps_pure _
  · split
    · exact h.advance.bind fun _ => keeps_pure _
    · exact h.unexpected _

theorem members_keeps (ih : AllKeep src I E fuel) (base : Expr) :
    Keeps I E (members src (fuel + 1) base) := by
  rw [members]
  refine keeps_peek.bind fun t => ?_
  dsimp only
  split
  · refine h.advance.bind fun _ => h.nested ?_
    refine h.memberName.bind fun _ => keeps_peek.bind fun _ => ?_
    split
    · exact h.advance.bind fun _ => (ih.elements _).bind fun _ => ih.members _
    · exact ih.members _
  · split
    · refine h.advance.bind fun _ => h.nested ?_
      exact (ih.expression _).bind fun _ => (h.expect _).bind fun _ => ih.members _
    · exact keeps_pure _

theorem allKeep : ∀ fuel, AllKeep src I E fuel
  | 0 => h.allKeep_zero
  | fuel + 1 =>
    have ih := allKeep fuel
    { expression := fun least => by
        rw [expression]
        exact h.nested (ih.unary.bind fun left => ih.operators least left)
      operators := h.operators_keeps ih
      unary := h.unary_keeps ih
      primary := h.primary_keeps ih
      elements := h.elements_keeps ih
      moreElements := h.moreElements_keeps ih
      members := h.members_keeps ih }

/-- **Reading a whole expression keeps what single steps keep**, and stops for no other reason than
those of single steps. -/
theorem keeps (fuel : Nat) : Keeps I E (wholeExpression src fuel) := by
  simp only [wholeExpression, Parser.plain]
  refine ((h.allKeep fuel).expression _).bind fun e s hs => ?_
  rw [ensures_bind, ensures_ahead]
  split
  · exact hs
  · exact h.unexpected _ s hs

end Invariant

end

end ExprLang
