import ExprLang.Proofs.Pattern.Brackets

/-!
# Reading groups inside of a group

Groups, repetitions and alternatives are read alike inside of a group.  So the whole of a pattern is,
up to the first closing parenthesis that closes no group of it.

## Main results

* `framed_alternatives` — a pattern is read alike inside of a group.
* `alternatives_stable` — a step for each character is enough.
-/

namespace ExprLang
namespace PatternReader

variable {α β : Type} {t : Slack} {s s' : PatternState} {c : Char} {rest : List Char}

/-! ### Heads of groups -/

theorem framed_flagItems : ∀ n seen f, Framed .loose (flagItems n seen f)
  | 0, _, _ => framed_failure
  | n + 1, seen, f => by
    refine framed_bind framed_demandMore fun _ => framed_peek_loose fun c? => ?_
    refine framed_ite (framed_ite framed_failure (framed_pure _)) (framed_bind framed_next fun c => ?_)
    split
    · exact framed_flagItems n _ _
    · exact framed_failure

/-- A step for each character, and one for the end, are enough. -/
theorem flagItems_stable : ∀ {n m : Nat} {s : PatternState} (seen f), s.rest.length < n →
    s.rest.length < m → flagItems n seen f s = flagItems m seen f s
  | 0, _, _, _, _, h, _ => absurd h (Nat.not_lt_zero _)
  | n + 1, m, s, seen, f, hn, hm => by
    obtain ⟨m, rfl⟩ := Nat.exists_eq_succ_of_ne_zero (Nat.ne_zero_of_lt hm)
    rw [flagItems, flagItems]
    refine bind_congr_of fun _ s₁ hmore => bind_congr_of fun c? s₂ hpeek => ?_
    cases hpeek
    have hle := (tame_demandMore.shrinks hmore).length_le
    split
    · rfl
    · refine bind_congr_of fun c s₃ hnext => ?_
      have hlt := consumes_next s₁ c s₃ hnext
      cases flagsBehind? seen f c with
      | none => rfl
      | some f => exact flagItems_stable _ _ (by omega) (by omega)

theorem framed_groupNumber : Framed t groupNumber where
  shrinks _ _ _ h := by
    cases h
    exact List.suffix_rfl
  settles h _ := by
    cases h
    rfl
  agrees s := .of_eq rfl

theorem groupName_eq (s : PatternState) :
    groupName s =
      if !isGroupName (s.rest.takeWhile (· != '>')) ||
          s.names.contains (s.rest.takeWhile (· != '>')) then none
      else expect '>' { s with
        rest := s.rest.dropWhile (· != '>'), names := s.rest.takeWhile (· != '>') :: s.names } := by
  change (if _ then _ else _ : PatternReader Unit) s = _
  split <;> rfl

theorem expect_of_nil (c : Char) (h : s.rest = []) : expect c s = none := bind_of_none (next_of_nil h)

theorem framed_groupName : Framed t groupName where
  shrinks s a s' h := by
    rw [groupName_eq] at h
    split at h
    · cases h
    · exact ((firm_expect '>').shrinks h).trans (List.dropWhile_suffix _)
  settles {s} a s' h hs := by
    rw [groupName_eq] at h
    split at h
    · cases h
    · rw [expect_of_nil '>' (by simp [hs])] at h
      cases h
  agrees s := by
    cases hdrop : s.rest.dropWhile (· != '>') with
    | nil =>
      -- without its mark the name cannot end, and the end of a group has no mark
      have hgroup : s.enclosed.rest.dropWhile (· != '>') = [] := by
        rw [PatternState.rest_enclosed, List.dropWhile_append, hdrop]
        rfl
      have hnone : ∀ s : PatternState, s.rest.dropWhile (· != '>') = [] → groupName s = none := by
        intro s hs
        rw [groupName_eq, hs]
        split
        · rfl
        · exact expect_of_nil '>' rfl
      refine .of_eq ?_
      rw [hnone s hdrop, hnone s.enclosed hgroup]
      rfl
    | cons c ds =>
      obtain ⟨htake, hdrop'⟩ := takeWhile_append_of_dropWhile hdrop groupEnd
      by_cases hname : !isGroupName (s.rest.takeWhile (· != '>')) ||
          s.names.contains (s.rest.takeWhile (· != '>'))
      · refine .of_eq ?_
        rw [groupName_eq, groupName_eq, PatternState.rest_enclosed, htake, if_pos hname]
        exact if_pos hname
      · refine ((firm_expect '>').agrees { s with
          rest := c :: ds, names := s.rest.takeWhile (· != '>') :: s.names }).of_none.of_step ?_ ?_ ?_
        · rw [groupName_eq, if_neg hname, hdrop]
        · rw [groupName_eq, PatternState.rest_enclosed, htake, hdrop']
          exact if_neg hname
        · exact hdrop ▸ List.dropWhile_suffix _

theorem framed_flaggedHead (outside : PatternFlags) : Framed .none (flaggedHead outside) := by
  refine (run_bind (P := Firm) (q := fun n => flagItems (n + 1) [] outside)
    (fun n => framed_flagItems _ _ _) (fun hn hm => flagItems_stable _ _ (by omega) (by omega))
    fun _ hrun => firm_bind hrun fun items => ?_).toFramed
  refine firm_next.bind fun c => framed_ite ?_ (framed_pure _)
  exact framed_ite framed_failure (framed_pure _)

theorem framed_markedHead (outside : PatternFlags) (named : Bool) :
    Framed .none (markedHead outside named) := by
  have hnumbered := framed_bind (t := .none) framed_groupNumber fun n =>
    framed_pure (GroupHead.group (some n) outside)
  refine framed_ite (framed_bind framed_groupName fun _ => hnumbered) ?_
  exact framed_bind (framed_accept (by decide)) fun flagged =>
    framed_ite (framed_flaggedHead outside) hnumbered

theorem framed_groupHead : Framed .none groupHead := by
  refine framed_get (fun s => ?_) fun s => framed_ite framed_failure ?_
  · simp (disch := decide) only [PatternState.rest_enclosed, PatternState.flags_enclosed, List.any_cons,
      List.any_nil, isPrefixOf_append_groupEnd]
  · have hmarked := framed_markedHead s.flags
    refine framed_bind (framed_accept (by decide)) fun named => framed_ite ?_ ?_
    · exact framed_bind (framed_pure true) hmarked
    · exact framed_bind (framed_accept (by decide)) hmarked

/-! ### Repetition -/

theorem skipBlanks_eq (s : PatternState) :
    skipBlanks s = some ((), { s with rest := s.rest.dropWhile isBlank }) := rfl

theorem framed_skipBlanks : Framed t skipBlanks where
  shrinks _ _ _ h := by
    cases h
    exact List.dropWhile_suffix _
  settles h _ := by
    cases h
    rfl
  agrees s := by
    refine .of_eq ?_
    rw [skipBlanks_eq, skipBlanks_eq, PatternState.rest_enclosed, dropWhile_isBlank_append_groupEnd]
    rfl

theorem framed_decimal : Framed .comment decimal := by
  refine framed_bind framed_skipBlanks fun _ => framed_spacedRun rfl fun ds => ?_
  refine framed_bind framed_skipBlanks fun _ => ?_
  split
  · exact framed_pure _
  · exact framed_ite (framed_pure _) framed_failure

theorem framed_required (n? : Option Nat) : Framed t (required n?) := by
  cases n? with
  | none => exact framed_failure
  | some n => exact framed_pure n

theorem firm_bounds : Firm bounds := by
  have hclosing : ∀ (least : Option Nat) (f : Nat → Nat × Option Nat),
      Firm (do expect '\x7d'; let n ← required least; return f n) := fun least f =>
    (firm_expect _).bind fun _ => framed_bind (framed_required least) fun _ => framed_pure _
  refine firm_bind framed_nextAndSpace fun _ => firm_bind framed_demandMore fun _ => ?_
  refine firm_bind framed_decimal fun least => firm_peek fun c? => firm_ite ?_ (hclosing least _)
  refine firm_bind framed_nextAndSpace fun _ => firm_peek fun c? => firm_ite (hclosing least _) ?_
  have hmost := framed_bind framed_decimal framed_required
  exact firm_bind (framed_bind hmost fun _ => framed_pure _) fun most => hclosing least _

theorem framed_repeatLast (least : Nat) (most : Option Nat) (lazy : Bool) (pieces : List Piece) :
    Framed t (repeatLast least most lazy pieces) := by
  cases pieces with
  | nil => exact framed_failure
  | cons p ps => exact framed_ite framed_failure (framed_pure _)

theorem framed_repeatThen {goOn : List Piece → PatternReader Piece}
    (hgoOn : ∀ ps, Framed t (goOn ps)) (least : Nat) (most : Option Nat) (pieces : List Piece) :
    Framed t (repeatThen goOn least most pieces) := by
  refine framed_bind (framed_accept (by decide)) fun lazy => framed_get (fun _ => rfl) fun s => ?_
  exact framed_bind (framed_repeatLast _ _ _ _) hgoOn

/-! ### Groups -/

theorem setFlags_eq (f : PatternFlags) (s : PatternState) :
    setFlags f s = some ((), { s with flags := f }) := rfl

theorem shrinks_setFlags (f : PatternFlags) : Shrinks (setFlags f) := by
  intro s _ s' h
  cases h
  exact List.suffix_rfl

/-- With other flags the readers go on as before. -/
theorem AgreesAt.setFlags {p : PatternReader α} {f : PatternFlags}
    (h : AgreesAt t p p { s with flags := f }) :
    AgreesAt t (do setFlags f; p) (do setFlags f; p) s :=
  h.of_step (bind_of_some (setFlags_eq f s)) (bind_of_some (setFlags_eq f s.enclosed)) List.suffix_rfl

section

variable {inside : PatternReader Piece} {goOn : List Piece → PatternReader Piece}
  (hinside : Framed .comment inside) (hgoOn : ∀ ps, Framed .comment (goOn ps))
include hgoOn

theorem shrinks_groupEnd (outer : PatternFlags) (ps : List Piece) :
    Shrinks (do setFlags outer; goOn ps) :=
  (shrinks_setFlags outer).bind fun _ => (hgoOn ps).shrinks

/-- Behind the closing parenthesis of a group the flags from before hold again. -/
theorem groupEnd_agrees (outer : PatternFlags) (ps : List Piece) (s : PatternState) :
    AgreesAt .comment (do expect ')'; setFlags outer; goOn ps) (do expect ')'; setFlags outer; goOn ps) s :=
  ((firm_expect ')').agrees s).bind_of_none (firm_expect ')').shrinks
    (fun _ _ _ => ((hgoOn ps).agrees _).setFlags) fun _ => shrinks_groupEnd hgoOn outer ps

theorem consumes_groupEnd (outer : PatternFlags) (ps : List Piece) :
    Consumes (do expect ')'; setFlags outer; goOn ps) :=
  (firm_expect ')').consumes.bind fun _ => shrinks_groupEnd hgoOn outer ps

include hinside

theorem shrinks_groupRest (pieces : List Piece) (outside : PatternFlags) (head : GroupHead) :
    Shrinks (groupRest inside goOn pieces outside head) := by
  cases head with
  | flags f => exact shrinks_groupEnd hgoOn f _
  | group number f =>
    refine (shrinks_setFlags f).bind fun _ => hinside.shrinks.bind fun inner => ?_
    exact (firm_expect ')').shrinks.bind fun _ => shrinks_groupEnd hgoOn outside _

theorem groupRest_agrees (pieces : List Piece) (outside : PatternFlags) (head : GroupHead)
    (s : PatternState) :
    AgreesAt .comment (groupRest inside goOn pieces outside head)
      (groupRest inside goOn pieces outside head) s := by
  cases head with
  | flags f => exact ((hgoOn _).agrees _).setFlags
  | group number f =>
    have hconsumes := fun inner : Piece => consumes_groupEnd hgoOn outside
      (⟨(number.map fun n => Pattern.group n inner.pattern).getD inner.pattern, inner.height + 1, true⟩ ::
        pieces)
    exact ((hinside.agrees _).bind_consumes hinside.shrinks
      (fun inner s' _ => groupEnd_agrees hgoOn outside _ s') hconsumes hconsumes).setFlags

omit hinside hgoOn in
theorem groupHead_of_nil (h : s.rest = []) :
    groupHead s = some (.group (some (s.groups + 1)) s.flags, { s with groups := s.groups + 1 }) := by
  obtain ⟨rest, flags, names, groups⟩ := s
  obtain rfl : rest = [] := h
  rfl

omit hgoOn in
/-- At the end of a pattern no group can be closed. -/
theorem groupThen_of_nil (pieces : List Piece) (h : s.rest = []) :
    groupThen inside goOn pieces s = none := by
  have hget : groupThen inside goOn pieces s = _ := bind_of_some (p := get) (s := s) rfl
  rw [hget, bind_of_some (groupHead_of_nil h), groupRest, bind_of_some (setFlags_eq _ _)]
  refine bind_eq_none fun inner s' hinner => bind_of_none (expect_of_nil ')' ?_)
  have hsuffix := hinside.shrinks hinner
  change s'.rest <:+ s.rest at hsuffix
  exact List.suffix_nil.mp (h ▸ hsuffix)

/-- A group is read alike. -/
theorem framed_group (pieces : List Piece) :
    Framed .comment (do let _ ← nextAndSpace; groupThen inside goOn pieces) := by
  have hrest := shrinks_groupRest hinside hgoOn pieces
  have hshrinks : Shrinks (groupThen inside goOn pieces) :=
    shrinks_get fun s => framed_groupHead.shrinks.bind (hrest s.flags)
  have htame : Tame (groupThen inside goOn pieces) :=
    ⟨hshrinks, fun h hs => by rw [groupThen_of_nil hinside pieces hs] at h; cases h⟩
  refine ⟨framed_nextAndSpace.toTame.bind fun _ => htame, fun s => ?_⟩
  refine (framed_nextAndSpace.agrees s).bind framed_nextAndSpace.shrinks (fun _ s' _ => ?_)
    (fun _ => htame) fun _ => hshrinks
  exact agreesAt_get ((framed_groupHead.agrees s').bind_of_none framed_groupHead.shrinks
    (fun head s'' _ => groupRest_agrees hinside hgoOn pieces s'.flags head s'') (hrest s'.flags))

end

/-! ### Alternatives -/

theorem alternatives_of_nil (n : Nat) (branches pieces : List Piece) (h : s.rest = []) :
    alternatives (n + 1) branches pieces s =
      some (joinBranches (joinPieces pieces :: branches), s) := by
  have hspace : skipSpace s = some ((), s) := by
    obtain ⟨rest, flags, names, groups⟩ := s
    obtain rfl : rest = [] := h
    rw [skipSpace_eq]
    cases flags.extended <;> rfl
  rw [alternatives, bind_of_some hspace, bind_of_some (peek_of_nil h)]
  rfl

/-- A brace that cannot begin a counted repetition stops the reader. -/
theorem alternatives_of_braced (n : Nat) (branches pieces : List Piece) (h : Braced s) :
    alternatives n branches pieces s = none := by
  cases n with
  | zero => rfl
  | succ n =>
    obtain ⟨rest, flags, names, groups⟩ := s
    obtain ⟨hbrace, hbounds⟩ := h
    obtain ⟨r, rfl⟩ : ∃ r, rest = '\x7b' :: r := List.head?_eq_some_iff.mp hbrace
    have hspace : skipSpace ⟨'\x7b' :: r, flags, names, groups⟩ =
        some ((), ⟨'\x7b' :: r, flags, names, groups⟩) := by
      rw [skipSpace_eq]
      cases flags.extended <;> rfl
    rw [alternatives, bind_of_some hspace]
    exact (bind_of_some (p := peek) rfl).trans (bind_of_none hbounds)

/-- A character is read alike, or nothing can be read behind it. -/
theorem framed_primitive_bind {k : Pattern → PatternReader Piece} (hk : ∀ p, Framed .comment (k p))
    (hbraced : ∀ p {s}, Braced s → k p s = none) : Framed .comment (primitive >>= k) :=
  framed_bind_or tame_primitive primitive_agrees hk fun hs => hbraced _ hs

/-- A pattern is read alike inside of a group, given the same number of steps. -/
theorem framed_alternatives : ∀ n branches pieces, Framed .comment (alternatives n branches pieces)
  | 0, _, _ => framed_failure
  | n + 1, branches, pieces => by
    have ih := framed_alternatives n
    have hrepeat := fun least most => framed_repeatThen (ih branches) least most
    rw [alternatives]
    refine framed_bind framed_skipSpace fun _ => framed_peek rfl fun c? => ?_
    -- one case for each part that the loop can meet, the recursion behind it
    cases nextPart c? with
    | ending => exact framed_pure _
    | bar => exact framed_bind framed_next fun _ => ih _ _
    | group => exact framed_group (ih [] []) (ih branches) pieces
    | bracket =>
      exact run_bind (q := fun n => bracket (2 * n + 1))
        (fun n => (firm_bracket _).toFramed.of_none) (fun hn hm => bracket_stable (by omega) (by omega))
        fun _ hrun => framed_bind hrun fun set => ih _ _
    | mark least most => exact framed_bind framed_next fun _ => hrepeat _ _ _
    | bounds =>
      refine framed_bind firm_bounds.toFramed.of_none fun counts => ?_
      exact framed_bind framed_skipSpace fun _ => hrepeat _ _ _
    | single => exact framed_primitive_bind (fun p => ih _ _) fun p => alternatives_of_braced n _ _

theorem repeatThen_congr {g g' : List Piece → PatternReader Piece} {least : Nat} {most : Option Nat}
    {pieces : List Piece} (h : ∀ ps s', s'.rest.length ≤ s.rest.length → g ps s' = g' ps s') :
    repeatThen g least most pieces s = repeatThen g' least most pieces s := by
  refine bind_congr_of fun lazy s₁ haccept => bind_congr_of fun s₂ s₃ hget => ?_
  cases hget
  have hle := ((framed_accept (t := .none) (by decide)).shrinks haccept).length_le
  refine bind_congr_of fun ps s₄ hlast => h ps s₄ ?_
  exact Nat.le_trans ((framed_repeatLast (t := .none) _ _ _ _).shrinks hlast).length_le hle

theorem groupThen_congr {i i' : PatternReader Piece} {g g' : List Piece → PatternReader Piece}
    {pieces : List Piece} (hi : Shrinks i')
    (hinside : ∀ s', s'.rest.length ≤ s.rest.length → i s' = i' s')
    (h : ∀ ps s', s'.rest.length ≤ s.rest.length → g ps s' = g' ps s') :
    groupThen i g pieces s = groupThen i' g' pieces s := by
  refine bind_congr_of fun s₀ s₁ hget => bind_congr_of fun head s₂ hhead => ?_
  cases hget
  have hle := (framed_groupHead.shrinks hhead).length_le
  -- a head of flags takes nothing more; a group has a body and its parenthesis
  cases head with
  | flags f =>
    rw [groupRest, groupRest, bind_of_some (setFlags_eq f s₂), bind_of_some (setFlags_eq f s₂)]
    exact h _ _ hle
  | group number f =>
    rw [groupRest, groupRest, bind_of_some (setFlags_eq f s₂), bind_of_some (setFlags_eq f s₂)]
    refine (bind_congr_left (hinside { s₂ with flags := f } hle)).trans ?_
    refine bind_congr_of fun inner s₃ hinner => bind_congr_of fun _ s₄ hclose => ?_
    rw [bind_of_some (setFlags_eq _ s₄), bind_of_some (setFlags_eq _ s₄)]
    have hle₃ := (hi hinner).length_le
    have hlt := (firm_expect ')').consumes s₃ _ s₄ hclose
    refine h _ _ ?_
    dsimp only at hle₃ ⊢
    omega

/-- A step for each character, and one for the end, are enough. -/
theorem alternatives_stable : ∀ {n m : Nat} {s : PatternState} (branches pieces),
    s.rest.length < n → s.rest.length < m → alternatives n branches pieces s = alternatives m branches pieces s
  | 0, _, _, _, _, h, _ => absurd h (Nat.not_lt_zero _)
  | n + 1, m, s, branches, pieces, hn, hm => by
    obtain ⟨m, rfl⟩ := Nat.exists_eq_succ_of_ne_zero (Nat.ne_zero_of_lt hm)
    have ih : ∀ {s' : PatternState} (branches pieces), s'.rest.length < s.rest.length →
        alternatives n branches pieces s' = alternatives m branches pieces s' :=
      fun branches pieces hlt => alternatives_stable branches pieces (by omega) (by omega)
    -- every part consumes something, so what is behind it needs fewer steps
    rw [alternatives, alternatives]
    refine bind_congr_of fun _ s₁ hspace => bind_congr_of fun c? s₂ hpeek => ?_
    cases hpeek
    have hle := (tame_skipSpace.shrinks hspace).length_le
    cases nextPart s₁.rest.head? with
    | ending => rfl
    | bar =>
      refine bind_congr_of fun c s₂ hnext => ih _ _ ?_
      have hlt := consumes_next s₁ c s₂ hnext
      omega
    | group =>
      refine bind_congr_of fun c s₂ hnext => ?_
      have hlt := consumes_nextAndSpace s₁ c s₂ hnext
      exact groupThen_congr (framed_alternatives m [] []).shrinks (fun s' hs' => ih _ _ (by omega))
        fun ps s' hs' => ih _ _ (by omega)
    | bracket =>
      refine bind_congr_of fun s₂ s₃ hget => bind_congr_of fun set s₄ hset => ih _ _ ?_
      cases hget
      have hlt := (firm_bracket _).consumes s₁ set s₄ hset
      omega
    | mark least most =>
      refine bind_congr_of fun c s₂ hnext => repeatThen_congr fun ps s' hs' => ih _ _ ?_
      have hlt := consumes_next s₁ c s₂ hnext
      omega
    | bounds =>
      refine bind_congr_of fun counts s₂ hbounds => bind_congr_of fun _ s₃ hspace' => ?_
      refine repeatThen_congr fun ps s' hs' => ih _ _ ?_
      have hlt := firm_bounds.consumes s₁ counts s₂ hbounds
      have hle' := (tame_skipSpace.shrinks hspace').length_le
      omega
    | single =>
      refine bind_congr_of fun p s₂ hp => ih _ _ ?_
      have hlt := consumes_primitive s₁ p s₂ hp
      omega

end PatternReader
end ExprLang
