import ExprLang.Proofs.Pattern.Logic

/-!
# Reading single characters inside of a group

The readers of single characters, of space, of numbers and of escapes read alike inside of a group.

A comment at the end of a pattern goes on over the end of the group.  That is the one way in which
something is read of a pattern, but not inside of a group.  And there is one reader that goes back: a
brace behind the escape of a word boundary may be the beginning of a counted repetition.  At the end of
a pattern nothing stands behind the brace, while inside of a group the reader goes back, but the
repetition cannot be read then.
-/

namespace ExprLang
namespace PatternReader

variable {α β : Type} {t : Slack} {s s' : PatternState} {c : Char} {rest : List Char}

/-! ### Space -/

mutual

theorem afterSpace_suffix : ∀ cs, afterSpace cs <:+ cs
  | [] => List.suffix_rfl
  | c :: cs => by
    rw [afterSpace]
    split
    · exact (afterSpace_suffix cs).trans (List.suffix_cons c cs)
    · split
      · exact (afterComment_suffix cs).trans (List.suffix_cons c cs)
      · exact List.suffix_rfl

theorem afterComment_suffix : ∀ cs, afterComment cs <:+ cs
  | [] => List.suffix_rfl
  | c :: cs => by
    rw [afterComment]
    split
    · exact (afterSpace_suffix cs).trans (List.suffix_cons c cs)
    · exact (afterComment_suffix cs).trans (List.suffix_cons c cs)

end

mutual

/-- Space is skipped alike, unless the end of the pattern is in a comment. -/
theorem afterSpace_append_groupEnd : ∀ cs,
    afterSpace (cs ++ groupEnd) = afterSpace cs ++ groupEnd ∨
      afterSpace cs = [] ∧ afterSpace (cs ++ groupEnd) = [] ∧ OpenComment cs
  | [] => .inl rfl
  | c :: cs => by
    rw [List.cons_append, afterSpace, afterSpace]
    split
    · exact (afterSpace_append_groupEnd cs).imp id fun h => ⟨h.1, h.2.1, h.2.2.cons c⟩
    · split
      · next hmark =>
        obtain rfl : c = '#' := by simpa using hmark
        refine (afterComment_append_groupEnd cs).imp id fun h => ⟨h.1, h.2.1, ?_⟩
        exact h.2.2.elim (fun hline => ⟨[], cs, rfl, hline⟩) fun hopen => hopen.cons '#'
      · exact .inl rfl

theorem afterComment_append_groupEnd : ∀ cs,
    afterComment (cs ++ groupEnd) = afterComment cs ++ groupEnd ∨
      afterComment cs = [] ∧ afterComment (cs ++ groupEnd) = [] ∧ ('\n' ∉ cs ∨ OpenComment cs)
  | [] => .inr ⟨rfl, rfl, .inl (by simp)⟩
  | c :: cs => by
    rw [List.cons_append, afterComment, afterComment]
    split
    · exact (afterSpace_append_groupEnd cs).imp id fun h => ⟨h.1, h.2.1, .inr (h.2.2.cons c)⟩
    · next hline =>
      refine (afterComment_append_groupEnd cs).imp id fun h => ⟨h.1, h.2.1, ?_⟩
      refine h.2.2.imp (fun hcs => ?_) fun hopen => hopen.cons c
      simp only [List.mem_cons, not_or]
      exact ⟨fun heq => hline (by simp [← heq]), hcs⟩

end

theorem skipSpace_eq (s : PatternState) :
    skipSpace s =
      some ((), { s with rest := if s.flags.extended then afterSpace s.rest else s.rest }) := by
  obtain ⟨rest, ⟨a, b, c, d, e, f, x⟩, names, groups⟩ := s
  cases x <;> rfl

theorem tame_skipSpace : Tame skipSpace where
  shrinks s a s' h := by
    rw [skipSpace_eq] at h
    cases h
    dsimp only
    split
    · exact afterSpace_suffix _
    · exact List.suffix_rfl
  settles {s} a s' h _ := by
    rw [skipSpace_eq] at h
    cases h
    rfl

/-- Space is skipped alike, or nothing is left in both readings. -/
theorem skipSpace_enclosed (s : PatternState) :
    skipSpace s.enclosed = (skipSpace s).map (fun r => (r.1, r.2.enclosed)) ∨
      s.flags.extended ∧ OpenComment s.rest ∧ skipSpace s = some ((), { s with rest := [] }) ∧
        skipSpace s.enclosed = some ((), { s with rest := [] }) := by
  rw [skipSpace_eq, skipSpace_eq]
  by_cases hextended : s.flags.extended
  · simp only [PatternState.flags_enclosed, PatternState.rest_enclosed, hextended, if_true]
    rcases afterSpace_append_groupEnd s.rest with h | ⟨halone, hgroup, hopen⟩
    · rw [h]
      exact .inl rfl
    · rw [halone, hgroup]
      exact .inr ⟨trivial, hopen, rfl, rfl⟩
  · simp only [PatternState.flags_enclosed, hextended]
    exact .inl rfl

theorem framed_skipSpace : Framed .comment skipSpace where
  toTame := tame_skipSpace
  agrees s := by
    refine (skipSpace_enclosed s).imp id fun ⟨hextended, hopen, halone, hgroup⟩ => ⟨?_, ?_⟩
    · intro a s' h
      cases halone.symm.trans h
      exact ⟨rfl, hextended, hopen⟩
    · intro a s' h
      cases hgroup.symm.trans h
      exact Nat.zero_le _

/-! ### Single characters -/

theorem next_of_nil (h : s.rest = []) : next s = none := by
  obtain ⟨rest, flags, names, groups⟩ := s
  obtain rfl : rest = [] := h
  rfl

theorem next_of_cons (h : s.rest = c :: rest) : next s = some (c, { s with rest := rest }) := by
  obtain ⟨rest, flags, names, groups⟩ := s
  obtain rfl : rest = _ := h
  rfl

theorem exists_cons_of_next (h : next s = some (c, s')) :
    ∃ rest, s.rest = c :: rest ∧ s' = { s with rest := rest } := by
  cases hs : s.rest with
  | nil => rw [next_of_nil hs] at h; cases h
  | cons d rest =>
    rw [next_of_cons hs] at h
    cases h
    exact ⟨rest, rfl, rfl⟩

theorem consumes_next : Consumes next := by
  intro s c s' h
  obtain ⟨rest, hs, rfl⟩ := exists_cons_of_next h
  simp [hs]

theorem framed_next : Framed t next where
  shrinks _ _ _ h := by
    obtain ⟨rest, hs, rfl⟩ := exists_cons_of_next h
    rw [hs]
    exact List.suffix_cons _ rest
  settles h hnil := by
    rw [next_of_nil hnil] at h
    cases h
  agrees s := by
    cases hs : s.rest with
    -- at the end only the group has a character left: its own parenthesis
    | nil =>
      have hgroup : s.enclosed.rest = ')' :: ['$'] := by rw [PatternState.rest_enclosed, hs]; rfl
      refine .inr ⟨fun a s' h => ?_, fun a s' h => ?_⟩
      · rw [next_of_nil hs] at h
        cases h
      · rw [next_of_cons hgroup] at h
        cases h
        exact t.one_le_room
    | cons c rest =>
      have hgroup : s.enclosed.rest = c :: (rest ++ groupEnd) := by
        rw [PatternState.rest_enclosed, hs]
        rfl
      rw [AgreesAt, next_of_cons hs, next_of_cons hgroup]
      exact .inl rfl

theorem consumes_nextAndSpace : Consumes nextAndSpace :=
  consumes_next.bind fun c => (tame_skipSpace.bind fun _ => tame_pure c).shrinks

theorem framed_nextAndSpace : Framed .comment nextAndSpace :=
  framed_bind framed_next fun c => framed_bind framed_skipSpace fun _ => framed_pure c

theorem firm_next : Firm next := ⟨framed_next, consumes_next⟩

theorem firm_expect (c : Char) : Firm (expect c) :=
  firm_next.bind fun _ => framed_ite framed_failure (framed_pure ())

theorem accept_eq (cs : List Char) (s : PatternState) :
    accept cs s =
      if cs.isPrefixOf s.rest then some (true, { s with rest := s.rest.drop cs.length })
      else some (false, s) := by
  change (if _ then _ else _ : PatternReader Bool) s = _
  split <;> rfl

/-- What does not begin with a closing parenthesis is a prefix of what comes next, or it is not, also
if the end of a group comes behind. -/
theorem isPrefixOf_append_groupEnd : ∀ (cs ds : List Char), ')' ∉ cs →
    cs.isPrefixOf (ds ++ groupEnd) = cs.isPrefixOf ds
  | [], _, _ => rfl
  | c :: cs, [], h => by
    have hc : c ≠ ')' := fun hc => h (hc ▸ List.mem_cons_self)
    simp [groupEnd, List.isPrefixOf, hc]
  | c :: cs, d :: ds, h => by
    rw [List.cons_append, List.isPrefixOf_cons_cons, List.isPrefixOf_cons_cons,
      isPrefixOf_append_groupEnd cs ds fun hcs => h (List.mem_cons_of_mem c hcs)]

theorem framed_accept {cs : List Char} (h : ')' ∉ cs) : Framed t (accept cs) where
  shrinks _ _ _ hs := by
    rw [accept_eq] at hs
    split at hs <;> cases hs
    · exact List.drop_suffix _ _
    · exact List.suffix_rfl
  settles hs _ := by
    rw [accept_eq] at hs
    split at hs <;> cases hs <;> rfl
  agrees s := by
    -- what is accepted has no parenthesis, so it cannot reach into the end of the group
    refine .of_eq ?_
    rw [accept_eq, accept_eq, PatternState.rest_enclosed, isPrefixOf_append_groupEnd cs s.rest h]
    split
    · next hprefix =>
      have hle : cs.length ≤ s.rest.length := (List.isPrefixOf_iff_prefix.mp hprefix).length_le
      rw [List.drop_append_of_le_length hle]
      rfl
    · rfl


theorem demandMore_of_ne_nil (h : s.rest ≠ []) : demandMore s = some ((), s) := by
  obtain ⟨rest, flags, names, groups⟩ := s
  cases rest with
  | nil => exact absurd rfl h
  | cons c rest => rfl

theorem tame_demandMore : Tame demandMore :=
  tame_get fun _ => (framed_ite framed_failure (framed_pure ()) : Framed .none _).toTame

theorem framed_demandMore : Framed .loose demandMore :=
  framed_of_ne_nil tame_demandMore fun s hs => .of_eq <| by
    rw [demandMore_of_ne_nil hs, demandMore_of_ne_nil (by simp [hs])]
    rfl

/-! ### Runs -/

variable {p : Char → Bool}

theorem spacedRun_of_nil (h : s.rest = []) : ∀ n, spacedRun p n s = some ([], s)
  | 0 => rfl
  | n + 1 => by
    rw [spacedRun, bind_of_some (peek_of_nil h)]
    rfl

/-- As many steps as there are characters are enough. -/
theorem spacedRun_stable : ∀ {n m : Nat} {s : PatternState}, s.rest.length ≤ n → s.rest.length ≤ m →
    spacedRun p n s = spacedRun p m s := by
  refine steps_stable spacedRun_of_nil fun {n m s} ih => ?_
  rw [spacedRun, spacedRun]
  refine bind_congr_of fun c? s₁ hpeek => ?_
  cases hpeek
  rcases s.rest.head? with _ | c
  · rfl
  · dsimp only
    split
    · exact bind_congr_of fun _ s₁ hnext => bind_congr_left (ih (consumes_nextAndSpace s _ s₁ hnext))
    · rfl

theorem framed_spacedRun_steps (hnext : Framed t nextAndSpace) (hend : t = .loose ∨ p ')' = false) :
    ∀ n, Framed t (spacedRun p n)
  | 0 => framed_pure []
  | n + 1 => by
    refine framed_peek_of (hend.imp id fun h => by simp [h]) fun c? => ?_
    rcases c? with _ | c
    · exact framed_pure []
    · refine framed_ite (framed_bind hnext fun _ => ?_) (framed_pure [])
      exact framed_bind (framed_spacedRun_steps hnext hend n) fun cs => framed_pure (c :: cs)

/-- A run of characters that a closing parenthesis is none of. -/
theorem framed_spacedRun {k : List Char → PatternReader β} (hend : p ')' = false)
    (hk : ∀ cs, Framed .comment (k cs)) :
    Framed .comment (get >>= fun s => spacedRun p s.rest.length >>= k) :=
  run_bind (framed_spacedRun_steps framed_nextAndSpace (.inr hend)) spacedRun_stable
    fun _ hrun => framed_bind hrun hk

/-- A run of any characters, behind which something has to be consumed. -/
theorem firm_spacedRun {k : List Char → PatternReader β} (hk : ∀ cs, Firm (k cs)) :
    Firm (get >>= fun s => spacedRun p s.rest.length >>= k) :=
  run_bind (framed_spacedRun_steps framed_nextAndSpace.loose (.inl rfl)) spacedRun_stable
    fun _ hrun => firm_bind hrun hk

/-! ### Escapes -/

theorem framed_hexChar (ds : List Char) : Framed t (hexChar ds) := by
  unfold hexChar
  split
  · exact framed_pure _
  · exact framed_failure

theorem framed_hexDigits : ∀ n, Framed .comment (hexDigits n)
  | 0 => framed_pure []
  | n + 1 => by
    refine framed_bind framed_next fun c => ?_
    refine framed_unless (framed_bind framed_skipSpace fun _ => ?_)
    exact framed_bind (framed_hexDigits n) fun cs => framed_pure (c :: cs)

theorem framed_hexEscape (kind : Char) : Framed .comment (hexEscape kind) := by
  refine framed_bind framed_skipSpace fun _ => framed_peek rfl fun c? => ?_
  refine framed_ite (framed_bind framed_nextAndSpace fun _ => ?_) ?_
  · refine framed_spacedRun rfl fun ds => framed_bind framed_nextAndSpace fun c => ?_
    exact framed_unless (framed_bind (framed_hexChar ds) fun _ => framed_pure _)
  · exact framed_bind (framed_hexDigits _) fun ds => framed_bind (framed_hexChar ds) fun _ => framed_pure _

theorem framed_finishSet (flags : PatternFlags) (negated : Bool) (set : CharSet) :
    Framed t (finishSet flags negated set) := framed_ite framed_failure (framed_pure _)

theorem framed_namedProperty (kind : Char) (flags : PatternFlags) (name : List Char) :
    Framed t (namedProperty kind flags name) := by
  unfold namedProperty
  split
  · exact framed_failure
  · exact framed_bind (framed_finishSet _ _ _) fun _ => framed_pure _

theorem framed_propertyEscape (kind : Char) : Framed .comment (propertyEscape kind) := by
  refine framed_bind framed_skipSpace fun _ => framed_get (fun _ => rfl) fun s => ?_
  refine framed_peek rfl fun c? => framed_ite ?_ ?_
  · refine Framed.of_none (firm_bind framed_nextAndSpace fun _ => ?_).toFramed
    refine firm_spacedRun fun name => (firm_expect _).bind fun _ => ?_
    exact framed_ite framed_failure (framed_namedProperty kind s.flags name)
  · refine framed_bind framed_nextAndSpace fun c => framed_ite framed_failure ?_
    exact framed_ite framed_failure (framed_namedProperty kind s.flags [c])

/-! ### Boundaries of words -/

theorem firm_namedAnchor (ascii : Bool) : Firm (namedAnchor ascii) := by
  refine firm_spacedRun fun name => (firm_expect _).bind fun _ => ?_
  split
  · exact framed_pure _
  · exact framed_pure _
  · exact framed_pure _
  · exact framed_pure _
  · exact framed_failure

theorem tame_boundaryEscape : Tame boundaryEscape := by
  refine tame_get fun s => tame_ite (tame_pure _) (tame_ite tame_failure (tame_ite ?_ (tame_pure _)))
  exact (firm_bind framed_nextAndSpace fun _ => firm_namedAnchor _).toTame

theorem boundaryEscape_of_ne_brace (h : s.rest.head? ≠ some '\x7b') :
    boundaryEscape s = some (.anchor (.boundary !s.flags.unicode), s) := by
  have hget : boundaryEscape s = _ := bind_of_some (p := get) (s := s) rfl
  rw [hget]
  simp only [bne_iff_ne.mpr h, if_true]
  rfl

/-- What stands behind a brace decides what the brace is for. -/
theorem boundaryEscape_of_brace {behind : List Char} (hs : s.rest = '\x7b' :: rest)
    (hbehind : (if s.flags.extended then afterSpace rest else rest) = behind) :
    boundaryEscape s =
      (match behind.head? with
        | none => failure
        | some c =>
          if isAnchorNameChar c then do
            let _ ← nextAndSpace
            namedAnchor !s.flags.unicode
          else return Primitive.anchor (.boundary !s.flags.unicode)) s := by
  have hget : boundaryEscape s = _ := bind_of_some (p := get) (s := s) rfl
  rw [hget]
  simp only [hs, List.head?_cons, List.drop_succ_cons, List.drop_zero, hbehind]
  cases behind <;> rfl

theorem decimal_of_groupEnd (h : s.rest = groupEnd) : decimal s = some (none, s) := by
  obtain ⟨rest, flags, names, groups⟩ := s
  obtain rfl : rest = _ := h
  rfl

/-- A brace comes next that cannot begin a counted repetition. -/
def Braced (s : PatternState) : Prop := s.rest.head? = some '\x7b' ∧ bounds s = none

/-- A repetition cannot be read if the end of the group follows its brace. -/
theorem bounds_of_groupEnd (h : nextAndSpace s = some (c, s')) (hs : s'.rest = groupEnd) :
    bounds s = none := by
  have hmore : s'.rest ≠ [] := by simp [hs, groupEnd]
  rw [bounds, bind_of_some h, bind_of_some (demandMore_of_ne_nil hmore),
    bind_of_some (decimal_of_groupEnd hs)]
  obtain ⟨rest, flags, names, groups⟩ := s'
  obtain rfl : rest = _ := hs
  rfl

theorem spaceSkipped_append_groupEnd (extended : Bool) (cs : List Char) :
    (if extended then afterSpace (cs ++ groupEnd) else cs ++ groupEnd) =
        (if extended then afterSpace cs else cs) ++ groupEnd ∨
      (if extended then afterSpace cs else cs) = [] ∧
        (if extended then afterSpace (cs ++ groupEnd) else cs ++ groupEnd) = [] := by
  cases extended with
  | false => exact .inl rfl
  | true => exact (afterSpace_append_groupEnd cs).imp id fun h => ⟨h.1, h.2.1⟩

theorem nextAndSpace_of_cons (hs : s.rest = c :: rest) :
    nextAndSpace s =
      some (c, { s with rest := if s.flags.extended then afterSpace rest else rest }) := by
  rw [nextAndSpace, bind_of_some (next_of_cons hs), bind_of_some (skipSpace_eq _)]
  rfl

/-- The escape of a boundary is read alike, or it stands at the end of the pattern with a brace. -/
theorem boundaryEscape_agrees (s : PatternState) :
    AgreesAt .comment boundaryEscape boundaryEscape s ∨
      boundaryEscape s = none ∧ ∃ a, boundaryEscape s.enclosed = some (.anchor a, s.enclosed) ∧
        Braced s.enclosed := by
  by_cases hbrace : s.rest.head? = some '\x7b'
  · obtain ⟨rest, hs⟩ : ∃ rest, s.rest = '\x7b' :: rest := List.head?_eq_some_iff.mp hbrace
    have hgroup : s.enclosed.rest = '\x7b' :: (rest ++ groupEnd) := by
      rw [PatternState.rest_enclosed, hs]
      rfl
    -- with a brace behind it, what follows decides whether an anchor is named
    rcases spaceSkipped_append_groupEnd s.flags.extended rest with hsame | ⟨halone, hend⟩
    · cases hbehind : (if s.flags.extended then afterSpace rest else rest) with
      | nil =>
        rw [hbehind] at hsame
        -- alone the pattern ends behind the brace, in the group the parenthesis follows
        refine .inr ⟨boundaryEscape_of_brace hs hbehind, .boundary !s.flags.unicode,
          boundaryEscape_of_brace hgroup hsame, by rw [hgroup]; rfl, ?_⟩
        exact bounds_of_groupEnd (nextAndSpace_of_cons hgroup) hsame
      | cons c cs =>
        rw [hbehind] at hsame
        rw [AgreesAt, boundaryEscape_of_brace hs hbehind, boundaryEscape_of_brace hgroup hsame]
        have hread : Framed .comment (if isAnchorNameChar c then do
            let _ ← nextAndSpace
            namedAnchor !s.flags.unicode
          else return Primitive.anchor (.boundary !s.flags.unicode)) :=
          framed_ite (firm_bind framed_nextAndSpace fun _ => firm_namedAnchor _).toFramed.of_none
            (framed_pure _)
        exact .inl (hread.agrees s)
    · refine .inl (.of_eq ?_)
      rw [boundaryEscape_of_brace hs halone, boundaryEscape_of_brace hgroup hend]
      rfl
  · refine .inl (.of_eq ?_)
    have hgroup : s.enclosed.rest.head? ≠ some '\x7b' := by
      rw [PatternState.rest_enclosed]
      cases hs : s.rest with
      | nil => simp [groupEnd]
      | cons c rest => simpa [hs] using hbrace
    rw [boundaryEscape_of_ne_brace hbrace, boundaryEscape_of_ne_brace hgroup]
    rfl

/-! ### Characters, sets and anchors -/

theorem framed_escaped (flags : PatternFlags) {c : Char} (hc : c ≠ 'b') :
    Framed .comment (escaped flags c) := by
  refine framed_ite (framed_hexEscape c) (framed_ite (framed_propertyEscape c) ?_)
  refine framed_ite (framed_pure _) (framed_ite ?_ (framed_ite (framed_pure _) ?_))
  · exact framed_bind (framed_finishSet _ _ _) fun _ => framed_pure _
  · split
    case h_9 => exact absurd rfl hc
    all_goals first | exact framed_pure _ | exact framed_failure

theorem escaped_boundary (flags : PatternFlags) : escaped flags 'b' = boundaryEscape := rfl

theorem tame_escaped (flags : PatternFlags) (c : Char) : Tame (escaped flags c) := by
  by_cases hc : c = 'b'
  · rw [hc, escaped_boundary]
    exact tame_boundaryEscape
  · exact (framed_escaped flags hc).toTame

theorem tame_escape : Tame escape :=
  tame_get fun s => firm_next.toTame.bind fun c => tame_escaped s.flags c

theorem consumes_escape : Consumes escape :=
  consumes_get fun s => consumes_next.bind fun c => (tame_escaped s.flags c).shrinks

theorem escape_of_cons (hs : s.rest = c :: rest) :
    escape s = escaped s.flags c { s with rest := rest } := by
  have hget : escape s = _ := bind_of_some (p := get) (s := s) rfl
  rw [hget, bind_of_some (next_of_cons hs)]

/-- An escape is read alike, or it is an anchor at the end of the pattern with a brace. -/
theorem escape_agrees (s : PatternState) :
    AgreesAt .comment escape escape s ∨
      escape s = none ∧ ∃ a s', escape s.enclosed = some (.anchor a, s') ∧ Braced s' := by
  cases hs : s.rest with
  | nil => exact .inl (AgreesAt.of_consumes consumes_escape consumes_escape hs).of_none
  | cons c rest =>
    have hgroup : s.enclosed.rest = c :: (rest ++ groupEnd) := by
      rw [PatternState.rest_enclosed, hs]
      rfl
    have hstep : ({ s with rest := rest } : PatternState).rest <:+ s.rest := hs ▸ List.suffix_cons c rest
    -- only `\b` looks past itself, for a brace that names the kind of boundary
    by_cases hc : c = 'b'
    · have hboundary : escaped s.flags c = boundaryEscape := by rw [hc, escaped_boundary]
      rw [escape_of_cons hs, escape_of_cons hgroup, PatternState.flags_enclosed, hboundary]
      refine (boundaryEscape_agrees _).imp (fun h => ?_) fun ⟨halone, a, hanchor, hbraced⟩ =>
        ⟨halone, a, _, hanchor, hbraced⟩
      refine h.of_step ?_ ?_ hstep
      · rw [escape_of_cons hs, hboundary]
      · rw [escape_of_cons hgroup, PatternState.flags_enclosed, hboundary]
        rfl
    · refine .inl (((framed_escaped s.flags hc).agrees _).of_step (escape_of_cons hs) ?_ hstep)
      exact escape_of_cons hgroup

theorem framed_literal (c : Char) (byte : Bool) : Framed t (literal c byte) :=
  framed_get (fun _ => rfl) fun _ => framed_ite framed_failure (framed_pure _)

theorem framed_dot : Framed t dot :=
  framed_get (fun _ => rfl) fun _ => framed_ite framed_failure (framed_pure _)

theorem framed_toPattern (p : Primitive) : Framed t p.toPattern := by
  cases p with
  | literal c byte => exact framed_literal c byte
  | set s => exact framed_pure _
  | anchor a => exact framed_pure _

theorem framed_unescaped (flags : PatternFlags) (c : Char) : Framed t (unescaped flags c) := by
  unfold unescaped
  split
  · exact framed_dot
  · exact framed_pure _
  · exact framed_pure _
  · exact framed_literal _ _

theorem tame_primitive : Tame primitive :=
  tame_get fun s => firm_next.toTame.bind fun c =>
    tame_ite (tame_escape.bind fun p => (framed_toPattern (t := .none) p).toTame)
      (framed_unescaped (t := .none) s.flags c).toTame

theorem consumes_primitive : Consumes primitive :=
  consumes_get fun s => consumes_next.bind fun c =>
    (tame_ite (tame_escape.bind fun p => (framed_toPattern (t := .none) p).toTame)
      (framed_unescaped (t := .none) s.flags c).toTame).shrinks

theorem primitive_of_cons (hs : s.rest = c :: rest) :
    primitive s =
      (if c == '\\' then escape >>= Primitive.toPattern else unescaped s.flags c)
        { s with rest := rest } := by
  have hget : primitive s = _ := bind_of_some (p := get) (s := s) rfl
  rw [hget, bind_of_some (next_of_cons hs)]

/-- A character outside of brackets is read alike, or it is an anchor at the end of the pattern with a
brace. -/
theorem primitive_agrees (s : PatternState) :
    AgreesAt .comment primitive primitive s ∨
      primitive s = none ∧ ∃ p s', primitive s.enclosed = some (p, s') ∧ Braced s' := by
  cases hs : s.rest with
  | nil => exact .inl (AgreesAt.of_consumes consumes_primitive consumes_primitive hs).of_none
  | cons c rest =>
    have hgroup : s.enclosed.rest = c :: (rest ++ groupEnd) := by
      rw [PatternState.rest_enclosed, hs]
      rfl
    have hstep : ({ s with rest := rest } : PatternState).rest <:+ s.rest := hs ▸ List.suffix_cons c rest
    have halone := primitive_of_cons hs
    have hgroup := primitive_of_cons hgroup
    -- only an escape can read differently; the difference is carried through the bind
    by_cases hc : c == '\\'
    · rw [if_pos hc] at halone hgroup
      rcases escape_agrees { s with rest := rest } with h | ⟨hnone, a, s', hanchor, hbraced⟩
      · have hbind := h.bind tame_escape.shrinks (fun p s' _ => (framed_toPattern p).agrees s')
          (fun p => (framed_toPattern (t := .none) p).toTame)
          fun p => (framed_toPattern (t := .none) p).shrinks
        exact .inl (hbind.of_step halone hgroup hstep)
      · refine .inr ⟨halone.trans (bind_of_none hnone), .anchor a, s', ?_, hbraced⟩
        exact hgroup.trans (bind_of_some hanchor)
    · rw [if_neg hc] at halone hgroup
      exact .inl (((framed_unescaped s.flags c).agrees _).of_step halone hgroup hstep)

end PatternReader
end ExprLang
