import ExprLang.Proofs.Parser.Soundness

/-!
# How tall the trees are that are read

The levels that are open while a text is read are at most `maxDepth`.  That bounds the height of what
is read, but not by `maxDepth`: the links of a chain close their levels when the chain ends, and the
tree of the chain then becomes the left operand of the next one, which has all levels to itself again.
A chain of accesses and a chain of operators can so stand one on the other at each level, and the
bound is the sum of what all levels allow.

## Main definitions

* `Expr.height` — the number of nodes on the longest way from the root to a leaf.
* `tallest room` — a bound on the height of what is read with room for `room` more levels.
* `HasRoom room s` — that many levels may still be opened in a state.

## Main results

* `height_le_of_parse` — **how tall a tree that is read can be**.
* `height_parse_gt_maxDepth` — it can be taller than the levels that may be open.

## References

`SPEC_FULL.md`, 10.1, on trees deeper than 128 levels; the reference's `MAX_NESTING_DEPTH`.
-/

namespace ExprLang

/-! ### Height -/

mutual

/-- The number of nodes on the longest way from the root of an expression to a leaf. -/
def Expr.height : Expr → Nat
  | .literal _ | .identifier _ | .binding _ | .component _ => 1
  | .property base _ _ => base.height + 1
  | .call base _ arguments _ => max base.height (heightOfAll arguments) + 1
  | .index base position => max base.height position.height + 1
  | .binary _ left right => max left.height right.height + 1
  | .unary _ operand => operand.height + 1
  | .conditional condition whenTrue whenFalse =>
    max condition.height (max whenTrue.height whenFalse.height) + 1
  | .elvis value fallback => max value.height fallback.height + 1
  | .list items => heightOfAll items + 1

/-- The height of the tallest of several expressions. -/
def heightOfAll : List Expr → Nat
  | [] => 0
  | e :: es => max e.height (heightOfAll es)

end

theorem Expr.height_pos (e : Expr) : 0 < e.height := by
  cases e <;> simp [height]

theorem Atom.height {t : Token} {e : Expr} (h : Atom t e) : e.height = 1 := by
  cases h <;> simp [Expr.height]

/-! ### Room -/

/-- The height that an expression can have if no more than `room` levels are opened to read it.  With
one level more, the members of a chain of accesses have `room` levels to open, and behind it an
operator has `room` levels for itself and its right operand. -/
def tallest : Nat → Nat
  | 0 => 0
  | room + 1 => room * (room + 1) + 1

theorem tallest_le_succ (room : Nat) : tallest room ≤ tallest (room + 1) := by
  cases room with
  | zero => exact Nat.zero_le _
  | succ room =>
    have hmul : room * (room + 1) ≤ (room + 1) * (room + 1 + 1) :=
      Nat.mul_le_mul (Nat.le_succ _) (Nat.le_succ _)
    exact Nat.succ_le_succ hmul

theorem tallest_pred_le (room : Nat) : tallest (room - 1) ≤ tallest room := by
  cases room with
  | zero => exact Nat.le_refl _
  | succ room => exact tallest_le_succ room

/-- An operand with all the links of its chain, and all the operators behind it. -/
theorem tallest_add_chains_le (room : Nat) :
    tallest room + room + 1 + (room - 1) ≤ tallest (room + 1) := by
  cases room with
  | zero => exact Nat.le_refl _
  | succ room =>
    simp only [tallest]
    have hexpand : (room + 1) * (room + 1 + 1) = room * (room + 1) + (room + 1) + (room + 1) := by
      rw [Nat.mul_succ, Nat.succ_mul]
    omega

/-- There is room for `room` more levels. -/
def HasRoom (room : Nat) (s : ParserState) : Prop := s.depth + room = maxDepth

section

variable {src : Lexemes} {s : ParserState} {room : Nat} {α : Type} {Q : α → ParserState → Prop}

theorem HasRoom.opened (h : HasRoom (room + 1) s) : HasRoom room s.opened := by
  unfold HasRoom at *
  simp only [ParserState.depth_opened]
  omega

theorem HasRoom.closed (h : HasRoom (room + 1) s) {s' : ParserState} (h' : HasRoom room s') :
    HasRoom (room + 1) s'.closed := by
  unfold HasRoom at *
  simp only [ParserState.depth_closed]
  omega

/-- What is read one level deeper has room for one level less; without room it is not read. -/
theorem ensures_nested_room {p : Parser α} (hs : HasRoom room s)
    (hp : ∀ r, room = r + 1 → HasRoom r s.opened →
      Ensures p (fun a s' => Q a s'.closed) AnyStop s.opened) :
    Ensures (nested src p) Q AnyStop s := by
  refine ensures_nested (fun hlt => ?_) fun _ _ => trivial
  obtain ⟨r, rfl⟩ : ∃ r, room = r + 1 := Nat.exists_eq_succ_of_ne_zero fun h => by
    unfold HasRoom at hs
    omega
  exact hp r rfl hs.opened

theorem ensures_advance_room (hs : HasRoom room s) :
    Ensures (advance src) (fun _ s' => HasRoom room s') AnyStop s := by
  cases hahead : s.ahead with
  | nil => simpa [Ensures, advance, hahead] using hs
  | cons l rest => exact ensures_advance hahead (fun _ => hs) fun _ _ _ => trivial

theorem ensures_expect_room (t : Token) (hs : HasRoom room s) :
    Ensures (expect src t) (fun _ s' => HasRoom room s') AnyStop s :=
  ensures_expect (fun _ => ensures_advance_room hs) fun _ => ensures_unexpected_anyStop _

theorem ensures_memberName_room (hs : HasRoom room s) :
    Ensures (memberName src) (fun _ s' => HasRoom room s') AnyStop s :=
  ensures_memberName (fun _ _ => ensures_advance_room hs) fun _ => ensures_unexpected_anyStop _

end

/-! ### The readers -/

/-- How tall the trees are that the readers answer with some fuel.  The readers of chains are given
what the chain begins with; `h` bounds that, and what stands to the right of a link. -/
structure Bounded (src : Lexemes) (fuel : Nat) : Prop where
  expression : ∀ least {room s}, HasRoom room s → Ensures (expression src fuel least)
    (fun e s' => e.height ≤ tallest room ∧ HasRoom room s') AnyStop s
  operators : ∀ least {left room h s}, HasRoom room s → left.height ≤ h → tallest (room - 1) ≤ h →
    Ensures (operators src fuel least left)
      (fun e s' => e.height ≤ h + (room - 1) ∧ HasRoom room s') AnyStop s
  unary : ∀ {room s}, HasRoom room s → Ensures (unary src fuel)
    (fun e s' => e.height ≤ tallest room + room + 1 ∧ HasRoom room s') AnyStop s
  primary : ∀ {room s}, HasRoom room s → Ensures (primary src fuel)
    (fun e s' => e.height ≤ tallest room + 1 ∧ HasRoom room s') AnyStop s
  elements : ∀ closer {room s}, HasRoom room s → Ensures (elements src fuel closer)
    (fun es s' => heightOfAll es ≤ tallest room ∧ HasRoom room s') AnyStop s
  moreElements : ∀ closer {room s}, HasRoom room s → Ensures (moreElements src fuel closer)
    (fun es s' => heightOfAll es ≤ tallest room ∧ HasRoom room s') AnyStop s
  members : ∀ {base room h s}, HasRoom room s → base.height ≤ h → tallest (room - 1) ≤ h →
    Ensures (members src fuel base) (fun e s' => e.height ≤ h + room ∧ HasRoom room s') AnyStop s

variable {src : Lexemes} {fuel room h : Nat} {s : ParserState}

theorem bounded_zero : Bounded src 0 where
  expression _ _ _ _ := by
    rw [expression]
    trivial
  operators _ _ _ _ _ _ _ _ := by
    rw [operators]
    trivial
  unary _ := by
    rw [unary]
    trivial
  primary _ := by
    rw [primary]
    trivial
  elements _ _ _ _ := by
    rw [elements]
    trivial
  moreElements _ _ _ _ := by
    rw [moreElements]
    trivial
  members _ _ _ := by
    rw [members]
    trivial

theorem expression_bounded (ih : Bounded src fuel) (least : Precedence) (hs : HasRoom room s) :
    Ensures (expression src (fuel + 1) least)
      (fun e s' => e.height ≤ tallest room ∧ HasRoom room s') AnyStop s := by
  simp only [expression, Parser.plain]
  refine ensures_nested_room hs ?_
  rintro r rfl hopened
  rw [ensures_bind]
  refine (ih.unary hopened).imp ?_
  rintro left s₁ ⟨hleft, h₁⟩
  have hpred := tallest_pred_le r
  refine (ih.operators least h₁ hleft (by omega)).imp ?_
  rintro e s₂ ⟨he, h₂⟩
  exact ⟨Nat.le_trans he (tallest_add_chains_le r), hs.closed h₂⟩

/-- The loop goes on behind a link with a tree that is one node taller, and with one level less. -/
theorem operators_link_bounded (ih : Bounded src fuel) (least : Precedence) {link : Expr} {r : Nat}
    {s₁ : ParserState} (hs : HasRoom (r + 1) s) (h₁ : HasRoom r s₁) (hr : 0 < r)
    (hlink : link.height ≤ h + 1) (hh : tallest r ≤ h) :
    Ensures (operators src fuel least link)
      (fun e s' => e.height ≤ h + (r + 1 - 1) ∧ HasRoom (r + 1) s'.closed) AnyStop s₁ := by
  have hpred := tallest_pred_le r
  refine (ih.operators least h₁ hlink (by omega)).imp ?_
  rintro e s₂ ⟨he, h₂⟩
  exact ⟨by omega, hs.closed h₂⟩

/-- An operand that is read needs a level for itself. -/
theorem pos_of_height_le_tallest {e : Expr} {r : Nat} (he : e.height ≤ tallest r) : 0 < r := by
  have hpos := e.height_pos
  cases r with
  | zero => exact absurd (Nat.lt_of_lt_of_le hpos he) (Nat.lt_irrefl 0)
  | succ r => exact Nat.succ_pos r

theorem operators_bounded (ih : Bounded src fuel) (least : Precedence) {left : Expr}
    (hs : HasRoom room s) (hleft : left.height ≤ h) (hh : tallest (room - 1) ≤ h) :
    Ensures (operators src (fuel + 1) least left)
      (fun e s' => e.height ≤ h + (room - 1) ∧ HasRoom room s') AnyStop s := by
  have hdone : Ensures (pure left : Parser Expr)
      (fun e s' => e.height ≤ h + (room - 1) ∧ HasRoom room s') AnyStop s := ⟨by omega, hs⟩
  simp only [operators, Parser.plain]
  rw [ensures_bind, ensures_peek]
  split
  case h_1 =>
    split
    · -- a conditional
      rw [ensures_bind]
      refine (ensures_advance_room hs).imp fun _ s₁ h₁ => ensures_nested_room h₁ ?_
      rintro r rfl hopened
      rw [ensures_bind]
      refine (ih.expression _ hopened).imp ?_
      rintro whenTrue s₂ ⟨htrue, h₂⟩
      rw [ensures_bind]
      refine (ensures_expect_room _ h₂).imp fun _ s₃ h₃ => ?_
      rw [ensures_bind]
      refine (ih.expression _ h₃).imp ?_
      rintro whenFalse s₄ ⟨hfalse, h₄⟩
      refine operators_link_bounded ih least h₁ h₄ (pos_of_height_le_tallest htrue) ?_ hh
      simp only [Expr.height, Nat.add_sub_cancel] at *
      omega
    · exact hdone
  case h_2 =>
    split
    · -- a fallback
      rw [ensures_bind]
      refine (ensures_advance_room hs).imp fun _ s₁ h₁ => ensures_nested_room h₁ ?_
      rintro r rfl hopened
      rw [ensures_bind]
      refine (ih.expression _ hopened).imp ?_
      rintro fallback s₂ ⟨hfall, h₂⟩
      refine operators_link_bounded ih least h₁ h₂ (pos_of_height_le_tallest hfall) ?_ hh
      simp only [Expr.height, Nat.add_sub_cancel] at *
      omega
    · exact hdone
  case h_3 op =>
    split
    · -- a binary operator with its right operand
      rw [ensures_bind]
      refine (ensures_advance_room hs).imp fun _ s₁ h₁ => ensures_nested_room h₁ ?_
      rintro r rfl hopened
      rw [ensures_bind]
      refine (ih.expression _ hopened).imp ?_
      rintro right s₂ ⟨hright, h₂⟩
      refine operators_link_bounded ih least h₁ h₂ (pos_of_height_le_tallest hright) ?_ hh
      simp only [Expr.height, Nat.add_sub_cancel] at *
      omega
    · exact hdone
  case h_4 => exact hdone

theorem unary_bounded (ih : Bounded src fuel) (hs : HasRoom room s) :
    Ensures (unary src (fuel + 1))
      (fun e s' => e.height ≤ tallest room + room + 1 ∧ HasRoom room s') AnyStop s := by
  -- an operator before an operand takes the level of one link
  have hprefix : ∀ op : UnaryOperator,
      Ensures (do advance src; return Expr.unary op (← nested src (unary src fuel)) : Parser Expr)
        (fun e s' => e.height ≤ tallest room + room + 1 ∧ HasRoom room s') AnyStop s := by
    intro op
    rw [ensures_bind]
    refine (ensures_advance_room hs).imp fun _ s₁ h₁ => ?_
    rw [ensures_bind]
    refine ensures_nested_room h₁ ?_
    rintro r rfl hopened
    refine (ih.unary hopened).imp ?_
    rintro e s₂ ⟨he, h₂⟩
    have hle := tallest_le_succ r
    refine ⟨?_, h₁.closed h₂⟩
    simp only [Expr.height]
    omega
  simp only [unary, Parser.plain]
  rw [ensures_bind, ensures_peek]
  split
  case h_1 => exact hprefix .negate
  case h_2 => exact hprefix .not
  case h_3 =>
    rw [ensures_bind]
    refine (ih.primary hs).imp ?_
    rintro base s₁ ⟨hbase, h₁⟩
    have hpred := tallest_pred_le room
    refine (ih.members h₁ hbase (by omega)).imp ?_
    rintro e s₂ ⟨he, h₂⟩
    exact ⟨by omega, h₂⟩

theorem primary_bounded (ih : Bounded src fuel) (hs : HasRoom room s) :
    Ensures (primary src (fuel + 1))
      (fun e s' => e.height ≤ tallest room + 1 ∧ HasRoom room s') AnyStop s := by
  simp only [primary, Parser.plain]
  rw [ensures_bind, ensures_ahead]
  split
  case h_1 => exact ensures_unexpected_anyStop _
  case h_2 l rest hahead =>
    rw [ensures_bind]
    refine (ensures_advance_room hs).imp fun _ s₁ h₁ => ?_
    split
    -- an atom; the tokens that make no expression end the reading
    case h_1 e _ hatom =>
      have hone := (atom?_eq_some_iff.mp hatom).height
      exact ⟨by omega, h₁⟩
    case h_2 => trivial
    case h_3 =>
      -- an expression in parentheses is as high as without them
      rw [ensures_bind]
      refine (ih.expression _ h₁).imp ?_
      rintro e s₂ ⟨he, h₂⟩
      rw [ensures_bind]
      exact (ensures_expect_room _ h₂).imp fun _ s₃ h₃ => ⟨by omega, h₃⟩
    case h_4 =>
      rw [ensures_bind]
      refine (ih.elements _ h₁).imp ?_
      rintro es s₂ ⟨hes, h₂⟩
      refine ⟨?_, h₂⟩
      simp only [Expr.height]
      omega
    case h_5 => trivial

theorem elements_bounded (ih : Bounded src fuel) (closer : Token) (hs : HasRoom room s) :
    Ensures (elements src (fuel + 1) closer)
      (fun es s' => heightOfAll es ≤ tallest room ∧ HasRoom room s') AnyStop s := by
  simp only [elements, Parser.plain]
  rw [ensures_bind, ensures_peek]
  split
  · rw [ensures_bind]
    exact (ensures_advance_room hs).imp fun _ s₁ h₁ => ⟨Nat.zero_le _, h₁⟩
  · exact ih.moreElements closer hs

theorem moreElements_bounded (ih : Bounded src fuel) (closer : Token) (hs : HasRoom room s) :
    Ensures (moreElements src (fuel + 1) closer)
      (fun es s' => heightOfAll es ≤ tallest room ∧ HasRoom room s') AnyStop s := by
  simp only [moreElements, Parser.plain]
  rw [ensures_bind]
  refine (ih.expression _ hs).imp ?_
  rintro e s₁ ⟨he, h₁⟩
  rw [ensures_bind, ensures_peek]
  -- after an element comes a comma with more elements, or the closing token
  split
  · rw [ensures_bind]
    refine (ensures_advance_room h₁).imp fun _ s₂ h₂ => ?_
    rw [ensures_bind]
    refine (ih.moreElements closer h₂).imp ?_
    rintro es s₃ ⟨hes, h₃⟩
    exact ⟨Nat.max_le.mpr ⟨he, hes⟩, h₃⟩
  · split
    · rw [ensures_bind]
      exact (ensures_advance_room h₁).imp fun _ s₂ h₂ => ⟨Nat.max_le.mpr ⟨he, Nat.zero_le _⟩, h₂⟩
    · exact ensures_unexpected_anyStop _

theorem members_bounded (ih : Bounded src fuel) {base : Expr} (hs : HasRoom room s)
    (hbase : base.height ≤ h) (hh : tallest (room - 1) ≤ h) :
    Ensures (members src (fuel + 1) base)
      (fun e s' => e.height ≤ h + room ∧ HasRoom room s') AnyStop s := by
  -- behind a link the chain goes on with a tree that is one node taller
  have hlink : ∀ {r : Nat} {s₁ : ParserState} {link : Expr}, room = r + 1 → HasRoom r s₁ →
      link.height ≤ h + 1 → Ensures (members src fuel link)
        (fun e s' => e.height ≤ h + room ∧ HasRoom room s'.closed) AnyStop s₁ := by
    rintro r s₁ link rfl h₁ hlink
    have hpred := tallest_pred_le r
    simp only [Nat.add_sub_cancel] at hh
    refine (ih.members h₁ hlink (by omega)).imp ?_
    rintro e s₂ ⟨he, h₂⟩
    exact ⟨by omega, hs.closed h₂⟩
  simp only [members, Parser.plain]
  rw [ensures_bind, ensures_peek]
  split
  · rw [ensures_bind]
    refine (ensures_advance_room hs).imp fun _ s₁ h₁ => ?_
    refine ensures_nested_room h₁ fun r hr hopened => ?_
    rw [ensures_bind]
    refine (ensures_memberName_room hopened).imp fun name s₂ h₂ => ?_
    rw [ensures_bind, ensures_peek]
    split
    · rw [ensures_bind]
      refine (ensures_advance_room h₂).imp fun _ s₃ h₃ => ?_
      rw [ensures_bind]
      refine (ih.elements _ h₃).imp ?_
      rintro arguments s₄ ⟨hargs, h₄⟩
      refine hlink hr h₄ ?_
      subst hr
      simp only [Expr.height, Nat.add_sub_cancel] at *
      omega
    · refine hlink hr h₂ ?_
      simp only [Expr.height]
      omega
  · split
    · rw [ensures_bind]
      refine (ensures_advance_room hs).imp fun _ s₁ h₁ => ?_
      refine ensures_nested_room h₁ fun r hr hopened => ?_
      rw [ensures_bind]
      refine (ih.expression _ hopened).imp ?_
      rintro position s₂ ⟨hpos, h₂⟩
      rw [ensures_bind]
      refine (ensures_expect_room _ h₂).imp fun _ s₃ h₃ => hlink hr h₃ ?_
      subst hr
      simp only [Expr.height, Nat.add_sub_cancel] at *
      omega
    · exact ⟨by omega, hs⟩

theorem bounded (src : Lexemes) : ∀ fuel, Bounded src fuel
  | 0 => bounded_zero
  | fuel + 1 =>
    have ih := bounded src fuel
    ⟨fun least _ _ hs => expression_bounded ih least hs,
      fun least _ _ _ _ hs hleft hh => operators_bounded ih least hs hleft hh,
      fun hs => unary_bounded ih hs, fun hs => primary_bounded ih hs,
      fun closer _ _ hs => elements_bounded ih closer hs,
      fun closer _ _ hs => moreElements_bounded ih closer hs,
      fun hs hbase hh => members_bounded ih hs hbase hh⟩

/-! ### Texts -/

theorem wholeExpression_bounded (src : Lexemes) (fuel : Nat) :
    Ensures (wholeExpression src fuel) (fun e _ => e.height ≤ tallest maxDepth) AnyStop
      ⟨src.lexemes, 0⟩ := by
  simp only [wholeExpression, Parser.plain]
  rw [ensures_bind]
  have hroom : HasRoom maxDepth ⟨src.lexemes, 0⟩ := Nat.zero_add _
  refine ((bounded src fuel).expression _ hroom).imp ?_
  rintro e s ⟨he, _⟩
  rw [ensures_bind, ensures_ahead]
  split
  · exact he
  · exact ensures_unexpected_anyStop _

/-- **How tall a tree that is read can be.**  With `maxDepth` levels to open, the height of a tree is
at most the sum of what the levels allow. -/
theorem height_le_of_parse {text : String} {e : Expr} (h : parse text = .ok e) :
    e.height ≤ (maxDepth - 1) * maxDepth + 1 := by
  unfold parse parseLexemes at h
  split at h
  · cases h
  · split at h
    · cases h
    · split at h
      case h_1 e' s hrun =>
        cases h
        exact (wholeExpression_bounded _ _).of_ok hrun
      all_goals cases h

/-- Chains of all kinds keep within the bound. -/
theorem height_parse_chains_le :
    ∃ e, parse "{-a.b[0].c(d) + 1 * 2}.e ?: f ? g : h" = .ok e ∧
      e.height ≤ (maxDepth - 1) * maxDepth + 1 := by
  have hok : (parse "{-a.b[0].c(d) + 1 * 2}.e ?: f ? g : h").toOption.isSome := by decide +kernel
  cases hparse : parse "{-a.b[0].c(d) + 1 * 2}.e ?: f ? g : h" with
  | error error =>
    rw [hparse] at hok
    cases hok
  | ok e => exact ⟨e, rfl, height_le_of_parse hparse⟩

/-- A tree can be taller than `maxDepth`: a name with as many operators before it as levels may be
open, and one operator more behind it. -/
theorem height_parse_gt_maxDepth :
    ∃ e, parse (String.ofList (List.replicate 127 '-') ++ "x+1") = .ok e ∧ maxDepth < e.height := by
  have hany : (parse (String.ofList (List.replicate 127 '-') ++ "x+1")).toOption.any
      fun e => maxDepth < e.height := by decide +kernel
  cases hparse : parse (String.ofList (List.replicate 127 '-') ++ "x+1") with
  | error error =>
    rw [hparse] at hany
    cases hany
  | ok e =>
    rw [hparse] at hany
    exact ⟨e, rfl, by simpa [Except.toOption] using hany⟩

end ExprLang
