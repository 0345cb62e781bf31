import ExprLang.Evaluation
import ExprLang.Proofs.Pattern.Groups
import ExprLang.Proofs.Pattern.Spans

/-!
# Matching whole texts

To match whole texts the text of a pattern is put between two anchors, inside of a group, and what comes
out is read as a pattern.  That is the same as to read the pattern itself and to put it between the
anchors, if the pattern leaves the end of the group alone.  It does not if it has a closing parenthesis
that closes no group of its own, for that one then closes the group; nor if it ends in a comment,
for the end of the group is then part of the comment.

## Main definitions

* `Piece.anchored` — what a pattern becomes between the anchors.
* `Pattern.Closed` — a pattern leaves the end of a group alone.
* `Pattern.KeepsLimits` — the anchors do not matter for the limits of patterns.

## Main results

* `Pattern.closed_of_reading` — which patterns are closed.
* `Pattern.parse?_anchored`, `Pattern.parse?_anchored_of_not_closed` — reading between the anchors.
* `eval_fullMatch` — **a closed pattern matches a text if it covers it**, and is only refused if it
  cannot be read.

## References

`SPEC_FULL.md`, 10.1: `matches` is a match of the full string.
-/

namespace ExprLang

open PatternReader

/-! ### Reading between the anchors -/

/-- A piece between the anchors of a text. -/
def Piece.anchored (p : Piece) : Piece :=
  joinPieces
    [⟨.anchor .textEnd, 0, true⟩, ⟨p.pattern, p.height + 1, true⟩, ⟨.anchor .textStart, 0, true⟩]

theorem Piece.pattern_anchored (p : Piece) :
    p.anchored.pattern = .concat [.anchor .textStart, p.pattern, .anchor .textEnd] := rfl

namespace Pattern

variable {cs : List Char} {r : Piece × PatternState}

/-- A pattern that can be read leaves the end of a group behind it: it is neither read less far, up to
a closing parenthesis of its own, nor further, to the end of a comment. -/
def Closed (cs : List Char) : Prop :=
  (reading? cs).isSome → (reading? (cs ++ groupEnd)).map (fun r => r.2.rest) = some groupEnd

instance : Decidable (Closed cs) := inferInstanceAs (Decidable (_ → _))

/-- A pattern that can be read is within the limits between the anchors if and only if it is so alone. -/
def KeepsLimits (cs : List Char) : Prop :=
  ∀ r ∈ reading? cs, r.1.anchored.admitted = r.1.admitted

instance : Decidable (KeepsLimits cs) := inferInstanceAs (Decidable (∀ r ∈ reading? cs, _))

theorem reading?_eq {n : Nat} (h : cs.length < n) : reading? cs = alternatives n [] [] (.initial cs) :=
  alternatives_stable [] [] (by change cs.length < _; omega) h

/-- What is read of a pattern in front of the end of a group and alone. -/
theorem reading?_append_groupEnd (cs : List Char) :
    reading? (cs ++ groupEnd) = (reading? cs).map (fun r => (r.1, r.2.enclosed)) ∨
      (∀ r, reading? cs = some r → r.2.rest = [] ∧ r.2.flags.extended ∧ OpenComment cs) ∧
        ∀ r, reading? (cs ++ groupEnd) = some r → r.2.rest.length ≤ 1 := by
  have hlength : (cs ++ groupEnd).length < cs.length + 3 := by simp [groupEnd]
  rw [reading?_eq hlength, reading?_eq (Nat.lt_add_of_pos_right (Nat.succ_pos 2))]
  exact ((framed_alternatives (cs.length + 3) [] []).agrees (.initial cs)).imp id fun h =>
    ⟨fun r => h.1 r.1 r.2, fun r => h.2 r.1 r.2⟩

/-- A pattern is closed if all of it is read, unless comments may stand at its end and there is the
mark of one in its last line. -/
theorem closed_of_reading (h : reading? cs = some r) (hrest : r.2.rest = [])
    (hcomment : ¬ (r.2.flags.extended ∧ OpenComment cs)) : Closed cs := by
  intro _
  rcases reading?_append_groupEnd cs with hsame | ⟨hexcused, -⟩
  · rw [hsame, h]
    exact congrArg (fun rest => some (rest ++ groupEnd)) hrest
  · exact absurd (hexcused r h).2 hcomment

/-- Who reads between the anchors reads the pattern first, and then the end of the group. -/
theorem reading?_anchored (cs : List Char) :
    reading? ('^' :: '(' :: '?' :: ':' :: (cs ++ groupEnd)) =
      (reading? (cs ++ groupEnd)).bind fun r => (do
        PatternReader.expect ')'
        setFlags .initial
        alternatives (cs.length + 6) []
          [⟨r.1.pattern, r.1.height + 1, true⟩, ⟨.anchor .textStart, 0, true⟩]) r.2 := by
  have hlength : (cs ++ groupEnd).length < cs.length + 6 := by simp [groupEnd]
  have hfuel : ('^' :: '(' :: '?' :: ':' :: (cs ++ groupEnd)).length + 2 = cs.length + 8 := by
    simp [groupEnd]
  rw [reading?_eq hlength, reading?, hfuel]
  rfl

/-- If the pattern leaves the end of the group, that is what is read next. -/
theorem reading?_anchored_of_rest (h : reading? (cs ++ groupEnd) = some r)
    (hrest : r.2.rest = groupEnd) :
    ∃ s : PatternState, s.rest = [] ∧
      reading? ('^' :: '(' :: '?' :: ':' :: (cs ++ groupEnd)) = some (r.1.anchored, s) := by
  obtain ⟨p, ⟨rest, flags, names, groups⟩⟩ := r
  obtain rfl : rest = groupEnd := hrest
  refine ⟨⟨[], .initial, names, groups⟩, rfl, ?_⟩
  rw [reading?_anchored, h]
  exact alternatives_of_nil (s := ⟨[], .initial, names, groups⟩) (cs.length + 4) []
    [⟨.anchor .textEnd, 0, true⟩, ⟨p.pattern, p.height + 1, true⟩, ⟨.anchor .textStart, 0, true⟩] rfl

/-- If it leaves less, the group is not closed. -/
theorem reading?_anchored_of_length_le
    (h : ∀ r, reading? (cs ++ groupEnd) = some r → r.2.rest.length ≤ 1) :
    reading? ('^' :: '(' :: '?' :: ':' :: (cs ++ groupEnd)) = none := by
  rw [reading?_anchored]
  refine Option.bind_eq_none_iff.mpr fun r hr => ?_
  have hsuffix := (framed_alternatives _ [] []).shrinks hr
  have hlength := h r hr
  obtain ⟨p, ⟨rest, flags, names, groups⟩⟩ := r
  -- what is left is the end of the anchored text, which is no closing parenthesis
  have hend : rest <:+ ['$'] :=
    List.suffix_of_suffix_length_le hsuffix
      ⟨cs ++ [')'], by simp [PatternState.initial, groupEnd]⟩ hlength
  refine PatternReader.bind_of_none ?_
  rcases List.suffix_cons_iff.mp hend with rfl | hnil
  · rfl
  · exact expect_of_nil ')' (List.suffix_nil.mp hnil)

/-! ### Patterns of whole texts -/

theorem parse?_eq (pattern : String) :
    parse? pattern = (reading? pattern.toList).bind fun r =>
      if r.2.rest.isEmpty && r.1.admitted then some r.1.pattern else none := by
  rw [parse?]
  cases reading? pattern.toList <;> rfl

theorem toList_anchored (pattern : String) :
    (anchored pattern).toList = '^' :: '(' :: '?' :: ':' :: (pattern.toList ++ groupEnd) := by
  rw [anchored, String.toList_append, String.toList_append]
  rfl

variable {pattern : String}

/-- All of a closed pattern is read, also in front of the end of a group. -/
theorem Closed.reading? (h : Closed cs) (hr : Pattern.reading? cs = some r) :
    r.2.rest = [] ∧ Pattern.reading? (cs ++ groupEnd) = some (r.1, r.2.enclosed) := by
  have hrest := h (by rw [hr]; rfl)
  rcases reading?_append_groupEnd cs with hsame | ⟨-, hle⟩
  · rw [hr] at hsame
    rw [hsame] at hrest
    exact ⟨List.append_left_eq_self.mp (Option.some.inj hrest), hsame⟩
  · obtain ⟨r', hr', hgroup⟩ := Option.map_eq_some_iff.mp hrest
    have hlength := hle r' hr'
    rw [hgroup] at hlength
    exact absurd hlength (by decide)

/-- Between the anchors a closed pattern is read as what it is alone. -/
theorem parse?_anchored (h : Closed pattern.toList) (hlimits : KeepsLimits pattern.toList) :
    parse? (anchored pattern) =
      (parse? pattern).map fun p => concat [.anchor .textStart, p, .anchor .textEnd] := by
  rw [parse?_eq, parse?_eq, toList_anchored]
  cases hr : Pattern.reading? pattern.toList with
  | none =>
    rcases reading?_append_groupEnd pattern.toList with hsame | ⟨-, hle⟩
    · rw [reading?_anchored_of_length_le (by simp [hsame, hr])]
      rfl
    · rw [reading?_anchored_of_length_le hle]
      rfl
  | some r =>
    obtain ⟨hrest, hgroup⟩ := h.reading? hr
    obtain ⟨s, hs, hanchored⟩ := reading?_anchored_of_rest hgroup (by simp [hrest])
    rw [hanchored, Option.bind_some, Option.bind_some, hs, hrest, hlimits r hr, Piece.pattern_anchored]
    cases r.1.admitted <;> rfl

/-- Groups as deep as a pattern may have them are too deep between the anchors. -/
example : ¬ KeepsLimits (List.replicate 249 '(' ++ 'a' :: List.replicate 249 ')') := by
  decide +kernel

/-- A pattern that is read as a whole but is not closed ends in a comment.  Between the anchors it
cannot be read. -/
theorem parse?_anchored_of_not_closed (h : ¬ Closed pattern.toList)
    (hr : Pattern.reading? pattern.toList = some r) (hrest : r.2.rest = []) :
    (r.2.flags.extended ∧ OpenComment pattern.toList) ∧ parse? (anchored pattern) = none := by
  have hcomment := Classical.not_not.mp fun hno => h (closed_of_reading hr hrest hno)
  refine ⟨hcomment, ?_⟩
  rw [parse?_eq, toList_anchored]
  rcases reading?_append_groupEnd pattern.toList with hsame | ⟨-, hle⟩
  · refine absurd (fun _ => ?_) h
    rw [hsame, hr]
    exact congrArg (fun rest => some (rest ++ groupEnd)) hrest
  · rw [reading?_anchored_of_length_le hle]
    rfl

end Pattern

theorem eval_literal (c : Context) (s : String) :
    (Expr.literal (.string s)).eval c = .ok (.string s) := by
  rw [Expr.eval, Expr.evalIn]
  rfl

/-- Matching is settled by the pattern between the anchors. -/
theorem eval_fullMatch_eq {c : Context} {l r : Expr} {text pattern : String}
    (hl : l.eval c = .ok (.string text)) (hr : r.eval c = .ok (.string pattern)) :
    (Expr.binary .fullMatch l r).eval c =
      match Pattern.fullMatch? pattern text with
      | some yes => .ok (.boolean yes)
      | none => .error (.invalidPattern pattern) := by
  have hbinary : ∀ found : Option Bool, Value.matched pattern found =
      match found with
      | some yes => .ok (.boolean yes)
      | none => .error (.invalidPattern pattern) := by
    rintro (_ | yes) <;> rfl
  rw [Expr.eval] at hl hr ⊢
  rw [Expr.evalIn, hl, hr, ← hbinary]
  rfl

/-- **A closed pattern matches a text if it covers it**, from its first to its last character, and it is
refused if and only if it cannot be read. -/
theorem eval_fullMatch {c : Context} {l r : Expr} {text pattern : String}
    (hl : l.eval c = .ok (.string text)) (hr : r.eval c = .ok (.string pattern))
    (hclosed : Pattern.Closed pattern.toList) (hlimits : Pattern.KeepsLimits pattern.toList) :
    ((Expr.binary .fullMatch l r).eval c = .error (.invalidPattern pattern) ↔
        Pattern.parse? pattern = none) ∧
      ∀ p, Pattern.parse? pattern = some p → ∃ yes : Bool,
        (Expr.binary .fullMatch l r).eval c = .ok (.boolean yes) ∧ (yes = true ↔ p.Covers text) := by
  rw [eval_fullMatch_eq hl hr, Pattern.fullMatch?, Pattern.parse?_anchored hclosed hlimits]
  cases Pattern.parse? pattern with
  | none => simp
  | some p =>
    refine ⟨by simp, fun q hq => ?_⟩
    cases hq
    exact ⟨_, rfl, Pattern.occursIn_anchored p text⟩

/-- So it is with a choice of which only one side has a repetition. -/
theorem eval_fullMatch_of_choice :
    Pattern.Closed "a|bc+".toList ∧ Pattern.KeepsLimits "a|bc+".toList ∧
      ((Expr.binary .fullMatch (.literal (.string "bcc")) (.literal (.string "a|bc+"))).eval .empty =
          .error (.invalidPattern "a|bc+") ↔ Pattern.parse? "a|bc+" = none) ∧
      ∀ p, Pattern.parse? "a|bc+" = some p → ∃ yes : Bool,
        (Expr.binary .fullMatch (.literal (.string "bcc")) (.literal (.string "a|bc+"))).eval .empty =
          .ok (.boolean yes) ∧ (yes = true ↔ p.Covers "bcc") := by
  have hclosed : Pattern.Closed "a|bc+".toList := by decide +kernel
  have hlimits : Pattern.KeepsLimits "a|bc+".toList := by decide +kernel
  exact ⟨hclosed, hlimits, eval_fullMatch (eval_literal _ _) (eval_literal _ _) hclosed hlimits⟩

/-- A closing parenthesis that closes no group makes a pattern of what is none, which then matches texts
that only begin like it.  A comment at the end keeps a pattern from being read. -/
theorem eval_fullMatch_not_closed :
    Pattern.parse? "a)|(?:b" = none ∧
      (Expr.binary .fullMatch (.literal (.string "axyz")) (.literal (.string "a)|(?:b"))).eval .empty =
        .ok (.boolean true) ∧
      Pattern.parse? "(?x)a#" = some (.literal ['a']) ∧
      (Expr.binary .fullMatch (.literal (.string "a")) (.literal (.string "(?x)a#"))).eval .empty =
        .error (.invalidPattern "(?x)a#") := by
  have hfront : Pattern.fullMatch? "a)|(?:b" "axyz" = some true := by decide +kernel
  have hcomment : Pattern.fullMatch? "(?x)a#" "a" = none := by decide +kernel
  refine ⟨by decide +kernel, ?_, by decide +kernel, ?_⟩
  · rw [eval_fullMatch_eq (eval_literal _ _) (eval_literal _ _), hfront]
  · rw [eval_fullMatch_eq (eval_literal _ _) (eval_literal _ _), hcomment]

end ExprLang
