import ExprLang.Proofs.Pattern.Characters

/-!
# Reading bracketed classes inside of a group

A bracketed class ends with its bracket, before the pattern does.  So it is read alike inside of a
group, and an anchor, which may stand at the end of a pattern with a brace, cannot stand in a class.
-/

namespace ExprLang
namespace PatternReader

variable {α β : Type} {t : Slack} {s s' : PatternState} {c : Char} {rest : List Char}

/-! ### Items -/

theorem tame_setItem : Tame setItem :=
  firm_next.toTame.bind fun _ => tame_ite tame_escape (tame_pure _)

theorem consumes_setItem : Consumes setItem :=
  consumes_next.bind fun _ => (tame_ite tame_escape (tame_pure _)).shrinks

theorem setItem_of_cons (hs : s.rest = c :: rest) :
    setItem s = (if c == '\\' then escape else pure (.literal c false)) { s with rest := rest } :=
  bind_of_some (next_of_cons hs)

theorem setItem_agrees (s : PatternState) :
    AgreesAt .comment setItem setItem s ∨
      setItem s = none ∧ ∃ a s', setItem s.enclosed = some (.anchor a, s') := by
  cases hs : s.rest with
  | nil => exact .inl (AgreesAt.of_consumes consumes_setItem consumes_setItem hs).of_none
  | cons c rest =>
    have hgroup : s.enclosed.rest = c :: (rest ++ groupEnd) := by
      rw [PatternState.rest_enclosed, hs]
      rfl
    have hstep : ({ s with rest := rest } : PatternState).rest <:+ s.rest := hs ▸ List.suffix_cons c rest
    have halone := setItem_of_cons hs
    have hgroup := setItem_of_cons hgroup
    -- only an escape can read differently in the group, a `\b` whose brace the end cuts off
    by_cases hc : c == '\\'
    · rw [if_pos hc] at halone hgroup
      rcases escape_agrees { s with rest := rest } with h | ⟨hnone, a, s', hanchor, -⟩
      · exact .inl (h.of_step halone hgroup hstep)
      · exact .inr ⟨halone.trans hnone, a, s', hgroup.trans hanchor⟩
    · rw [if_neg hc] at halone hgroup
      exact .inl (((framed_pure _).agrees _).of_step halone hgroup hstep)

/-- If an anchor cannot stand there, an item is read alike. -/
theorem framed_setItem_bind {k : Primitive → PatternReader β} (hk : ∀ p, Framed .loose (k p))
    (hanchor : ∀ a s, k (.anchor a) s = none) : Framed .loose (setItem >>= k) := by
  have hread : ∀ s, AgreesAt .loose setItem setItem s ∨ setItem s = none ∧
      ∃ p s', setItem s.enclosed = some (p, s') ∧ ∃ a, p = .anchor a := fun s =>
    (setItem_agrees s).imp .loose fun ⟨halone, a, s', hgroup⟩ =>
      ⟨halone, .anchor a, s', hgroup, a, rfl⟩
  refine framed_bind_or tame_setItem hread hk ?_
  rintro _ s' ⟨a, rfl⟩
  exact hanchor a s'

/-! ### Ranges -/

theorem framed_setLiteral (flags : PatternFlags) (c : Char) : Framed t (setLiteral flags c) :=
  framed_ite framed_failure (framed_pure _)

theorem framed_oneItem (flags : PatternFlags) (p : Primitive) : Framed t (oneItem flags p) := by
  cases p with
  | literal c byte => exact framed_bind (framed_setLiteral flags c) fun n => framed_pure _
  | set s => exact framed_pure s
  | anchor a => exact framed_failure

theorem framed_rangeBetween (flags : PatternFlags) (p q : Primitive) :
    Framed t (rangeBetween flags p q) := by
  unfold rangeBetween
  split
  · refine framed_bind (framed_setLiteral flags _) fun lo => ?_
    exact framed_bind (framed_setLiteral flags _) fun hi => framed_ite framed_failure (framed_pure _)
  · exact framed_failure

theorem dropWhile_isBlank_append_groupEnd (cs : List Char) :
    (cs ++ groupEnd).dropWhile isBlank = cs.dropWhile isBlank ++ groupEnd := by
  induction cs with
  | nil => rfl
  | cons c cs ih =>
    rw [List.cons_append, List.dropWhile_cons, List.dropWhile_cons]
    split
    · exact ih
    · rfl

theorem behindHyphen_append_groupEnd (flags : PatternFlags) (cs : List Char) :
    behindHyphen flags (cs ++ groupEnd) = (behindHyphen flags cs).or (some ')') := by
  unfold behindHyphen
  rw [dropWhile_isBlank_append_groupEnd]
  split
  · cases hcs : cs.dropWhile isBlank with
    | nil => rfl
    | cons c ds =>
      by_cases hc : c = '#'
      · subst hc
        simp only [List.cons_append, dropWhile_isBlank_append_groupEnd, List.head?_append]
        rfl
      · simp only [List.cons_append]
        split <;> split <;> simp_all
  · rw [List.head?_append]
    rfl

/-- A closing parenthesis makes no range. -/
theorem standsAlone_append_groupEnd (flags : PatternFlags) (cs : List Char) :
    standsAlone flags (cs ++ groupEnd) = standsAlone flags cs := by
  cases cs with
  | nil => rfl
  | cons c cs =>
    unfold standsAlone
    simp only [List.cons_append, List.drop_succ_cons, List.drop_zero, List.head?_cons,
      behindHyphen_append_groupEnd]
    cases behindHyphen flags cs <;> rfl

theorem framed_rangeFrom (flags : PatternFlags) (p : Primitive) : Framed .loose (rangeFrom flags p) := by
  refine framed_bind framed_skipSpace.loose fun _ => framed_bind framed_demandMore fun _ => ?_
  refine framed_get (fun s => ?_) fun s => framed_ite (framed_oneItem flags p) ?_
  · rw [PatternState.rest_enclosed, standsAlone_append_groupEnd]
  · refine framed_bind framed_nextAndSpace.loose fun _ => framed_bind framed_demandMore fun _ => ?_
    refine framed_setItem_bind (framed_rangeBetween flags p) fun a s => ?_
    cases p <;> rfl

theorem rangeFrom_anchor (flags : PatternFlags) (a : Anchor) (s : PatternState) :
    rangeFrom flags (.anchor a) s = none := by
  refine bind_eq_none fun _ _ _ => bind_eq_none fun _ _ _ => bind_eq_none fun _ _ _ => ?_
  split
  · rfl
  · exact bind_eq_none fun _ _ _ => bind_eq_none fun _ _ _ => bind_eq_none fun _ _ _ => rfl

theorem framed_setRange : Framed .loose setRange :=
  framed_get (fun _ => rfl) fun s => framed_setItem_bind (framed_rangeFrom s.flags) (rangeFrom_anchor s.flags)

theorem consumes_setRange : Consumes setRange :=
  consumes_get fun s => consumes_setItem.bind fun p => (framed_rangeFrom s.flags p).shrinks

/-! ### Heads -/

theorem framed_leadingHyphens_steps : ∀ n, Framed .loose (leadingHyphens n)
  | 0 => framed_pure []
  | n + 1 => by
    refine framed_peek_loose fun c? => framed_ite ?_ (framed_pure [])
    refine framed_bind framed_nextAndSpace.loose fun _ => framed_bind framed_demandMore fun _ => ?_
    exact framed_bind (framed_leadingHyphens_steps n) fun ps => framed_pure _

theorem leadingHyphens_of_nil (h : s.rest = []) : ∀ n, leadingHyphens n s = some ([], s)
  | 0 => rfl
  | n + 1 => by
    rw [leadingHyphens, bind_of_some (peek_of_nil h)]
    rfl

/-- As many steps as there are characters are enough. -/
theorem leadingHyphens_stable : ∀ {n m : Nat} {s : PatternState}, s.rest.length ≤ n →
    s.rest.length ≤ m → leadingHyphens n s = leadingHyphens m s := by
  refine steps_stable leadingHyphens_of_nil fun {n m s} ih => ?_
  rw [leadingHyphens, leadingHyphens]
  refine bind_congr_of fun c? s₁ hpeek => ?_
  cases hpeek
  split
  · refine bind_congr_of fun _ s₁ hnext => bind_congr_of fun _ s₂ hmore => bind_congr_left (ih ?_)
    exact Nat.lt_of_le_of_lt (tame_demandMore.shrinks hmore).length_le
      (consumes_nextAndSpace s _ s₁ hnext)
  · rfl

theorem bracketHead_framed : Framed .loose bracketHead ∧ Consumes bracketHead := by
  have hitems : ∀ negated : Bool, Framed .loose (do
      let hyphens ← leadingHyphens (← get).rest.length
      if hyphens.isEmpty && (← peek) == some ']' then
        let _ ← nextAndSpace
        demandMore
        return (negated, [⟨.single ']', 0⟩])
      return (negated, hyphens)) := by
    intro negated
    refine run_bind framed_leadingHyphens_steps leadingHyphens_stable
      fun _ hrun => framed_bind hrun fun hyphens => ?_
    refine framed_peek_loose fun c? => framed_ite ?_ (framed_pure _)
    refine framed_bind framed_nextAndSpace.loose fun _ => ?_
    exact framed_bind framed_demandMore fun _ => framed_pure _
  refine framed_bind_of_consumes framed_nextAndSpace.loose consumes_nextAndSpace fun _ => ?_
  refine framed_bind framed_demandMore fun _ => framed_peek_loose fun c? => framed_ite ?_ (hitems _)
  exact framed_bind framed_nextAndSpace.loose fun _ => framed_bind framed_demandMore fun _ => hitems _

/-! ### What comes next -/

theorem takeWhile_append_of_dropWhile {p : Char → Bool} {cs ds : List Char}
    (h : cs.dropWhile p = c :: ds) (es : List Char) : (cs ++ es).takeWhile p = cs.takeWhile p ∧
      (cs ++ es).dropWhile p = c :: (ds ++ es) := by
  induction cs with
  | nil => cases h
  | cons d cs ih =>
    rw [List.dropWhile_cons] at h
    rw [List.cons_append, List.takeWhile_cons, List.takeWhile_cons, List.dropWhile_cons]
    split at h
    · next hd =>
      rw [if_pos hd, if_pos hd, if_pos hd, (ih h).1, (ih h).2]
      exact ⟨rfl, rfl⟩
    · next hd =>
      cases h
      rw [if_neg hd, if_neg hd, if_neg hd]
      exact ⟨rfl, rfl⟩

/-- The end of a group has no colon. -/
theorem untilColon?_append_groupEnd (cs : List Char) : untilColon? (cs ++ groupEnd) = untilColon? cs := by
  unfold untilColon?
  cases hcs : cs.dropWhile (· != ':') with
  | nil =>
    have hall : (cs ++ groupEnd).dropWhile (· != ':') = [] := by
      rw [List.dropWhile_append, hcs]
      rfl
    rw [hall]
    rfl
  | cons c ds =>
    obtain ⟨htake, hdrop⟩ := takeWhile_append_of_dropWhile hcs groupEnd
    rw [htake, hdrop, ← List.cons_append, isPrefixOf_append_groupEnd _ _ (by decide)]

/-- The name of a class is seen alike. -/
theorem namedAscii?_append_groupEnd (cs : List Char) : namedAscii? (cs ++ groupEnd) = namedAscii? cs := by
  unfold namedAscii?
  rw [isPrefixOf_append_groupEnd _ _ (by decide), isPrefixOf_append_groupEnd _ _ (by decide)]
  dsimp only
  split
  · next hprefix =>
    have hdrop : (cs ++ groupEnd).drop (if ['[', ':', '^'].isPrefixOf cs then 3 else 2) =
        cs.drop (if ['[', ':', '^'].isPrefixOf cs then 3 else 2) ++ groupEnd := by
      refine List.drop_append_of_le_length ?_
      split
      · next h => exact (List.isPrefixOf_iff_prefix.mp h).length_le
      · next h =>
        have hcolon := (Bool.or_eq_true _ _).mp hprefix |>.resolve_left h
        exact (List.isPrefixOf_iff_prefix.mp hcolon).length_le
    rw [hdrop, untilColon?_append_groupEnd]
  · rfl

/-- At the end of the pattern apart, what comes next is seen alike. -/
theorem upcoming_append_groupEnd {cs : List Char} (h : cs ≠ []) :
    upcoming (cs ++ groupEnd) = upcoming cs := by
  have hempty : (cs ++ groupEnd).isEmpty = cs.isEmpty := by
    obtain ⟨c, ds, rfl⟩ := List.exists_cons_of_ne_nil h
    rfl
  unfold upcoming
  simp only [namedAscii?_append_groupEnd, hempty]
  simp (disch := decide) only [isPrefixOf_append_groupEnd]

/-! ### Classes -/

theorem skip_eq (n : Nat) (s : PatternState) :
    skip n s = some ((), { s with rest := s.rest.drop n }) := rfl

theorem tame_skip (n : Nat) : Tame (skip n) where
  shrinks _ _ _ h := by
    cases h
    exact List.drop_suffix _ _
  settles h _ := by
    cases h
    rfl

theorem framed_skip (n : Nat) : Framed .loose (skip n) where
  toTame := tame_skip n
  agrees s := by
    by_cases hn : n ≤ s.rest.length
    · refine .of_eq ?_
      rw [skip_eq, skip_eq, PatternState.rest_enclosed, List.drop_append_of_le_length hn]
      rfl
    · refine .inr ⟨fun a s' h => ?_, fun a s' h => ?_⟩
      · cases h
        exact List.drop_eq_nil_of_le (Nat.le_of_not_le hn)
      · cases h
        simp only [PatternState.rest_enclosed, List.length_drop, List.length_append, groupEnd,
          List.length_cons, List.length_nil, Slack.room]
        omega

/-- A class and its items are read alike, given the same number of steps. -/
theorem firm_bracket_and_items : ∀ n, Firm (bracket n) ∧ ∀ waiting items, Firm (bracketItems n waiting items)
  | 0 => ⟨firm_failure, fun _ _ => firm_failure⟩
  | n + 1 => by
    obtain ⟨hbracket, hitems⟩ := firm_bracket_and_items n
    constructor
    · refine firm_get (fun _ _ => rfl) fun s => firm_bind bracketHead_framed.1 fun head => ?_
      refine (hitems none _).bind fun inner => ?_
      exact framed_bind (framed_finishSet _ _ _) fun _ => framed_pure _
    -- the items look ahead, and the brackets stand between them and the end of the group
    · intro waiting items
      refine firm_bind framed_skipSpace fun _ => firm_get (fun s hs => ?_) fun s => ?_
      · rw [PatternState.rest_enclosed, upcoming_append_groupEnd hs]
        rfl
      · split
        case h_1 => exact firm_failure
        case h_2 =>
          refine firm_next.bind fun _ => (firm_bind (framed_skip _) fun _ => ?_).toFramed
          exact firm_bind (framed_finishSet (t := .none) _ _ _) fun _ => hitems _ _
        case h_3 => exact firm_bind hbracket.toFramed fun _ => hitems _ _
        case h_4 => exact firm_next.bind fun _ => framed_pure _
        case h_5 => exact firm_next.bind fun _ => framed_bind framed_next fun _ => (hitems _ _).toFramed
        case h_6 => exact firm_bind framed_setRange fun _ => hitems _ _

theorem firm_bracket (n : Nat) : Firm (bracket n) := (firm_bracket_and_items n).1


/-- Two steps for each character are enough. -/
theorem bracket_and_items_stable : ∀ n,
    (∀ {m : Nat} {s : PatternState}, 2 * s.rest.length < n → 2 * s.rest.length < m →
      bracket n s = bracket m s) ∧
    ∀ {m : Nat} {s : PatternState} (waiting items), 2 * s.rest.length + 1 < n →
      2 * s.rest.length + 1 < m → bracketItems n waiting items s = bracketItems m waiting items s
  | 0 => ⟨fun h => absurd h (Nat.not_lt_zero _), fun _ _ h => absurd h (Nat.not_lt_zero _)⟩
  | n + 1 => by
    obtain ⟨hbracket, hitems⟩ := bracket_and_items_stable n
    constructor
    · intro m s hn hm
      obtain ⟨m, rfl⟩ := Nat.exists_eq_succ_of_ne_zero (Nat.ne_zero_of_lt hm)
      rw [bracket, bracket]
      refine bind_congr_of fun s₀ s₁ hget => bind_congr_of fun head s₂ hhead => bind_congr_left ?_
      cases hget
      have hlt := bracketHead_framed.2 s head s₂ hhead
      exact hitems none head.2 (by omega) (by omega)
    · intro m s waiting items hn hm
      obtain ⟨m, rfl⟩ := Nat.exists_eq_succ_of_ne_zero (Nat.ne_zero_of_lt hm)
      rw [bracketItems, bracketItems]
      refine bind_congr_of fun _ s₁ hspace => bind_congr_of fun s₂ s₃ hget => ?_
      cases hget
      have hle := (tame_skipSpace.shrinks hspace).length_le
      -- every item takes a character
      have hmore : ∀ {s' : PatternState} (waiting items), s'.rest.length < s₁.rest.length →
          bracketItems n waiting items s' = bracketItems m waiting items s' :=
        fun waiting items hlt => hitems waiting items (by omega) (by omega)
      cases upcoming s₁.rest with
      | nothing => rfl
      | named set negated length =>
        refine bind_congr_of fun _ s₂ hnext => bind_congr_of fun _ s₃ hskip => ?_
        refine bind_congr_of fun _ s₄ hset => hmore _ _ ?_
        have hlt := consumes_next s₁ _ s₂ hnext
        have hle₃ := ((tame_skip length).shrinks hskip).length_le
        have hle₄ := ((framed_finishSet (t := .none) _ _ _).shrinks hset).length_le
        omega
      | bracket =>
        refine (bind_congr_left (hbracket (m := m) (by omega) (by omega))).trans ?_
        refine bind_congr_of fun inner s₂ hinner => hmore _ _ ?_
        exact (firm_bracket m).consumes s₁ inner s₂ hinner
      | closing => rfl
      | operation op =>
        refine bind_congr_of fun _ s₂ hnext => bind_congr_of fun _ s₃ hnext' => hmore _ _ ?_
        have hlt := consumes_next s₁ _ s₂ hnext
        have hlt' := consumes_next s₂ _ s₃ hnext'
        omega
      | range => exact bind_congr_of fun set s₂ hset => hmore _ _ (consumes_setRange s₁ set s₂ hset)

theorem bracket_stable {n m : Nat} (hn : 2 * s.rest.length < n) (hm : 2 * s.rest.length < m) :
    bracket n s = bracket m s := (bracket_and_items_stable n).1 hn hm

end PatternReader
end ExprLang
