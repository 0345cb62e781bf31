import ExprLang.Proofs.Parser.Frames
import ExprLang.Proofs.Parser.Progress

/-!
# The counter of levels is balanced

Keeping count of the levels with one number, and counting the links of a chain on the side, comes to the
same as closing each level where it was opened.  The grammar is read in both ways side by side, and they
do the same until they stop; where the plain one has closed the levels of a chain, the counter still has
the links to come off.  At the same time, whatever is recorded may happen.  So nothing that happens on
any path, not even on one that ends with an error somewhere deep inside, leaves the counter at a wrong
number.

## Main definitions

* `Levels.Mirrors` — two readers that do the same, of which one keeps count as it may.

## Main results

* `Levels.allMirror` — read with the count, the grammar does the same as read plainly.
* `Levels.parse_path` — the reader that keeps count reads texts as `parse` does, along a path.
* `Levels.parse_balanced` — **the counter is balanced on every path, and bounds the recursion**.

## References

`SPEC_FULL.md`, 10.1, on levels; the reference's `enter`, `leave` and `deepen`.
-/

namespace ExprLang
namespace Levels

variable {α β : Type} {src : Lexemes}

/-! ### Readers that do not know the counter -/

/-- The reader leaves the counter as it is. -/
def Steady (p : Parser α) : Prop :=
  ∀ s, Ensures p (fun _ s' => s'.depth = s.depth) (fun _ s' => s'.depth = s.depth) s

theorem steady_peek : Steady peek := fun _ => rfl

theorem steady_throw (e : Stop) : Steady (throw e : Parser α) := fun _ => rfl

theorem steady_unexpected (expected : Expectation) : Steady (unexpected expected : Parser α) :=
  fun _ => ensures_unexpected (fun _ => rfl) fun _ _ _ => rfl

theorem steady_advance : Steady (advance src) := by
  intro s
  cases hs : s.ahead with
  | nil => simp only [Ensures, advance, hs]
  | cons l rest => exact ensures_advance hs (fun _ => rfl) fun _ _ _ => rfl

theorem steady_expect (t : Token) : Steady (expect src t) :=
  fun s => ensures_expect (fun _ => steady_advance s) fun _ => steady_unexpected _ s

theorem steady_memberName : Steady (memberName src) :=
  fun s => ensures_memberName (fun _ _ => steady_advance s) fun _ => steady_unexpected _ s

/-! ### Runs side by side -/

/-- What is left behind by a reader that keeps count, run from the state `t`, and by one of the grammar
that is run beside it.  The first has raised the counter by the `n` links that it has added to the
chain, and what has happened may happen where `P` holds of the innermost routine; the second has closed
all levels. -/
structure Adds (P : Option Routine → Prop) (n : ℕ) (t t' : State) (s' : ParserState) : Prop where
  ahead : t'.ahead = s'.ahead
  closed : s'.depth = t.depth
  depth : t'.depth = t.depth + n
  links : t'.links = t.links + n
  path : ∃ new, t'.log = t.log ++ new ∧ ∀ calls : Frames, calls.floor ≤ t.depth → P calls.caller →
    Path ⟨calls, t.depth⟩ new ⟨calls, t.depth + n⟩

/-- Both runs have the same result, or stop for the same reason.  Only a reader that is `linking` has
added links. -/
inductive Ends (P : Option Routine → Prop) (linking : Bool) (t : State) :
    EStateM.Result Stop State α → EStateM.Result Stop ParserState α → Prop
  | ok {a : α} {n : ℕ} {t' : State} {s' : ParserState} (hn : linking = false → n = 0)
    (h : Adds P n t t' s') : Ends P linking t (.ok a t') (.ok a s')
  | error {e : Stop} {n : ℕ} {t' : State} {s' : ParserState} (hn : linking = false → n = 0)
    (h : Adds P n t t' s') : Ends P linking t (.error e t') (.error e s')

/-- Run from the same state, in a routine of which `P` holds, both readers end alike. -/
def Mirrors (P : Option Routine → Prop) (linking : Bool) (p : Reader α) (q : Parser α) : Prop :=
  ∀ t, Ends P linking t (p t) (q t.toParserState)

section Rules

variable {P P' : Option Routine → Prop} {linking : Bool} {n : ℕ} {t t₁ t₂ : State}
  {s₁ s₂ : ParserState}

theorem adds_zero {s : ParserState} (hahead : t₁.ahead = s.ahead) (hs : s.depth = t.depth)
    (hdepth : t₁.depth = t.depth) (hlinks : t₁.links = t.links) (hlog : t₁.log = t.log) :
    Adds P 0 t t₁ s :=
  ⟨hahead, hs, hdepth, hlinks, [], by rw [hlog, List.append_nil], fun _ _ _ => .nil _⟩

theorem Adds.toParserState_eq (h : Adds P 0 t t₁ s₁) : s₁ = t₁.toParserState := by
  obtain ⟨⟨ahead, depth⟩, links, log⟩ := t₁
  obtain ⟨ahead', depth'⟩ := s₁
  obtain rfl : ahead = ahead' := h.ahead
  obtain rfl : depth' = depth := h.closed.trans h.depth.symm
  rfl

/-- What may happen in some routines may happen in fewer. -/
theorem Adds.mono (h : Adds P n t t₁ s₁) (hP : ∀ c, P' c → P c) : Adds P' n t t₁ s₁ := by
  obtain ⟨new, hnew, hpath⟩ := h.path
  exact ⟨h.ahead, h.closed, h.depth, h.links, new, hnew,
    fun calls hfloor hcaller => hpath calls hfloor (hP _ hcaller)⟩

/-- What happens later happens behind what has happened before. -/
theorem Adds.trans (h : Adds P 0 t t₁ t₁.toParserState) (h' : Adds P n t₁ t₂ s₂) :
    Adds P n t t₂ s₂ := by
  obtain ⟨new, hnew, hpath⟩ := h.path
  obtain ⟨new', hnew', hpath'⟩ := h'.path
  have hdepth : t₁.depth = t.depth := h.depth
  have hlinks : t₁.links = t.links := h.links
  refine ⟨h'.ahead, h'.closed.trans hdepth, hdepth ▸ h'.depth, hlinks ▸ h'.links, new ++ new', ?_, ?_⟩
  · rw [hnew', hnew, List.append_assoc]
  · intro calls hfloor hcaller
    have hlater := hpath' calls (hdepth ▸ hfloor) hcaller
    -- the later path was recorded from the counter that the earlier one has come back to
    rw [hdepth] at hlater
    exact (hpath calls hfloor hcaller).append hlater

theorem Ends.trans {r : EStateM.Result Stop State α} {r' : EStateM.Result Stop ParserState α}
    (hends : Ends P linking t₁ r r') (h : Adds P 0 t t₁ t₁.toParserState) :
    Ends P linking t r r' := by
  cases hends with
  | ok hn h' => exact .ok hn (h.trans h')
  | error hn h' => exact .error hn (h.trans h')

/-! ### Putting readers together -/

theorem mirrors_pure (a : α) : Mirrors P linking (pure a) (pure a) :=
  fun _ => .ok (fun _ => rfl) (adds_zero rfl rfl rfl rfl rfl)

theorem mirrors_lift {p : Parser α} (hp : Steady p) : Mirrors P linking (lift p) p := by
  intro t
  have hsteady := hp t.toParserState
  unfold lift
  unfold Ensures at hsteady
  cases hrun : p t.toParserState with
  | ok a s =>
    rw [hrun] at hsteady
    exact .ok (fun _ => rfl) (adds_zero rfl hsteady hsteady rfl rfl)
  | error e s =>
    rw [hrun] at hsteady
    exact .error (fun _ => rfl) (adds_zero rfl hsteady hsteady rfl rfl)

theorem Mirrors.bind {p : Reader α} {q : Parser α} {f : α → Reader β} {g : α → Parser β}
    (hp : Mirrors P false p q) (hf : ∀ a, Mirrors P linking (f a) (g a)) :
    Mirrors P linking (p >>= f) (q >>= g) := by
  intro t
  have hends := hp t
  simp only [Bind.bind, EStateM.bind]
  generalize p t = outcome at hends ⊢
  generalize q t.toParserState = outcome' at hends ⊢
  cases hends with
  | error hn h => exact .error (fun _ => hn rfl) h
  | @ok a n t₁ s₁ hn h =>
    -- without links the two runs go on from the same state
    obtain rfl := hn rfl
    obtain rfl := h.toParserState_eq
    exact (hf a t₁).trans h

/-- Both readers see the tokens that are left. -/
theorem mirrors_ahead_bind {f : List Lexeme → Reader α} {g : List Lexeme → Parser α}
    (h : ∀ ls, Mirrors P linking (f ls) (g ls)) :
    Mirrors P linking (lift ahead >>= f) (ahead >>= g) :=
  fun t => h t.ahead t

theorem Mirrors.mono {p : Reader α} {q : Parser α} (h : Mirrors P linking p q)
    (hP : ∀ c, P' c → P c) : Mirrors P' linking p q := by
  intro t
  have hends := h t
  generalize p t = outcome at hends ⊢
  generalize q t.toParserState = outcome' at hends ⊢
  cases hends with
  | ok hn h => exact .ok hn (h.mono hP)
  | error hn h => exact .error hn (h.mono hP)

/-- A routine is read inside of those that call it. -/
theorem Mirrors.inside {p : Reader α} {q : Parser α} {r c : Routine}
    (h : Mirrors (fun d => Routine.mayCall d r = true) linking p q)
    (hc : Routine.mayCall (some c) r = true) : Mirrors (fun d => d = some c) linking p q := by
  apply h.mono
  rintro _ rfl
  exact hc

theorem Mirrors.insideEither {p : Reader α} {q : Parser α} {r c c' : Routine}
    (h : Mirrors (fun d => Routine.mayCall d r = true) linking p q)
    (hc : Routine.mayCall (some c) r = true) (hc' : Routine.mayCall (some c') r = true) :
    Mirrors (fun d => d = some c ∨ d = some c') linking p q := by
  apply h.mono
  rintro _ (rfl | rfl)
  · exact hc
  · exact hc'

/-! ### Ways to use the counter

Each of them is described twice: by what is recorded, and for the readers as a whole. -/

/-- A call that holds no level. -/
theorem Adds.call {r : Routine} (h : Adds P 0 (t.record (.called r)) t₁ s₁)
    (hr : r.holdsLevel = false) (hP : P (some r)) (ok : Bool) :
    Adds (fun c => Routine.mayCall c r = true) 0 t (t₁.record (.returned r ok)) s₁ := by
  obtain ⟨new, hnew, hpath⟩ := h.path
  refine ⟨h.ahead, h.closed, h.depth, h.links, ⟨.called r, t.toParserState⟩ ::
    (new ++ [⟨.returned r ok, t₁.toParserState⟩]), ?_, ?_⟩
  · simp [State.record, hnew]
  · intro calls hfloor hcaller
    have hcalled : Step ⟨calls, t.depth⟩ ⟨.called r, t.toParserState⟩ ⟨(r, t.depth) :: calls, t.depth⟩ :=
      .called r rfl hcaller (by simp [hr])
    have hinner := hpath ((r, t.depth) :: calls) (Nat.le_refl _) hP
    exact .cons hcalled (hinner.append (.single (.returned r ok h.depth)))

/-- A chain, whose links are taken off the counter in the end. -/
theorem Adds.chain {r : Routine} (h : Adds (fun c => c = some r) n (t.withLinks 0) t₁ s₁)
    (hr : r.readsChain = true) : Adds (fun c => c = some r) 0 t (t₁.unlink t.links) s₁ := by
  obtain ⟨new, hnew, hpath⟩ := h.path
  have hlinks : t₁.links = n := by simpa using h.links
  have hdepth : t₁.depth = t.depth + n := h.depth
  have hlowered : (t₁.unlink t.links).depth = t.depth := by
    simp [State.unlink, hlinks, hdepth]
  refine ⟨h.ahead, h.closed, hlowered, rfl,
    new ++ [⟨.unlinked n, (t₁.unlink t.links).toParserState⟩], ?_, ?_⟩
  · simp only [State.log_withLinks] at hnew
    simp [State.unlink, hnew, hlinks]
  · intro calls hfloor hcaller
    exact (hpath calls hfloor hcaller).append
      (.single (.unlinked n hlowered hfloor ⟨r, hcaller, hr⟩))

/-- A link of a chain, with what comes behind it. -/
theorem Adds.behindLink {r : Routine} (h : Adds (fun c => c = some r) n t.link t₁ s₁)
    (hlimit : t.depth < maxDepth) (hr : r.readsChain = true) :
    Adds (fun c => c = some r) (n + 1) t t₁ s₁.closed := by
  obtain ⟨new, hnew, hpath⟩ := h.path
  have hclosed : s₁.depth = t.depth + 1 := h.closed
  have hdepth : t₁.depth = t.depth + 1 + n := h.depth
  have hlinks : t₁.links = t.links + 1 + n := h.links
  refine ⟨h.ahead, ?_, ?_, ?_, ⟨.linked, t.link.toParserState⟩ :: new, ?_, ?_⟩
  · simp [hclosed]
  · omega
  · omega
  · simpa [State.link] using hnew
  · intro calls hfloor hcaller
    have hlater := hpath calls (Nat.le_succ_of_le hfloor) hcaller
    rw [show t.depth + (n + 1) = t.depth + 1 + n by omega]
    exact .cons (.linked rfl hlimit ⟨r, hcaller, hr⟩) hlater

/-- A call that holds a level. -/
theorem Adds.within {r : Routine} (h : Adds P 0 (t.enter.record (.called r)) t₁ s₁)
    (hlimit : t.depth < maxDepth) (hP : P (some r)) (ok : Bool) :
    Adds (fun c => Routine.mayCall c r = true) 0 t (t₁.record (.returned r ok)).leave s₁.closed := by
  obtain ⟨new, hnew, hpath⟩ := h.path
  have hclosed : s₁.depth = t.depth + 1 := h.closed
  have hdepth : t₁.depth = t.depth + 1 := h.depth
  have hlowered : (t₁.record (.returned r ok)).leave.depth = t.depth := by
    simp [State.leave, hdepth]
  -- the four moments of the level surround what the body records
  refine ⟨h.ahead, ?_, hlowered, h.links, ⟨.entered, t.enter.toParserState⟩ ::
    ⟨.called r, t.enter.toParserState⟩ :: (new ++ [⟨.returned r ok, t₁.toParserState⟩,
      ⟨.left, (t₁.record (.returned r ok)).leave.toParserState⟩]), ?_, ?_⟩
  · simp [hclosed]
  · simp [State.leave, State.enter, hnew]
  · intro calls hfloor hcaller
    have hcalled : Step ⟨calls, t.depth + 1⟩ ⟨.called r, t.enter.toParserState⟩
        ⟨(r, t.depth + 1) :: calls, t.depth + 1⟩ :=
      .called r rfl hcaller fun _ => Nat.lt_succ_of_le hfloor
    have hinner := hpath ((r, t.depth + 1) :: calls) (Nat.le_refl _) hP
    have hreturned : Step ⟨(r, t.depth + 1) :: calls, t.depth + 1⟩
        ⟨.returned r ok, t₁.toParserState⟩ ⟨calls, t.depth + 1⟩ := .returned r ok hdepth
    exact .cons (.entered rfl hlimit) (.cons hcalled
      (hinner.append (.cons hreturned (.single (.left hlowered hfloor)))))

/-- What is done in the end is done to a result and to an error alike, and leaves no links behind. -/
theorem Ends.lastly {p : Reader α} {r : EStateM.Result Stop ParserState α} {f : Bool → State → State}
    (h : Ends P linking t₁ (p t₁) r)
    (hadds : ∀ {n t₂ s} (ok : Bool), (linking = false → n = 0) → Adds P n t₁ t₂ s →
      Adds P' 0 t (f ok t₂) s) : Ends P' false t (Levels.lastly f p t₁) r := by
  unfold Levels.lastly
  generalize p t₁ = outcome at h ⊢
  cases h with
  | ok hn h => exact .ok (fun _ => rfl) (hadds true hn h)
  | error hn h => exact .error (fun _ => rfl) (hadds false hn h)

theorem Mirrors.call {p : Reader α} {q : Parser α} {r : Routine} (h : Mirrors P false p q)
    (hr : r.holdsLevel = false) (hP : P (some r)) :
    Mirrors (fun c => Routine.mayCall c r = true) false (Levels.call r p) q := by
  intro t
  refine (h (t.record (.called r))).lastly fun ok hn h => ?_
  obtain rfl := hn rfl
  exact h.call hr hP ok

theorem Mirrors.chain {p : Reader α} {q : Parser α} {r : Routine}
    (h : Mirrors (fun c => c = some r) true p q) (hr : r.readsChain = true) :
    Mirrors (fun c => c = some r) false (Levels.chain p) q :=
  fun t => (h (t.withLinks 0)).lastly fun _ _ h => h.chain hr

/-- At the limit both readers stop, for the same reason and in the state that they are in. -/
theorem ends_gate {p : Reader α} {q : Parser α} {raise : State → State}
    (h : t.depth < maxDepth → Ends P linking t (p (raise t))
      (match q t.toParserState.opened with
        | .ok a s' => .ok a s'.closed
        | .error e s' => .error e s'.closed)) :
    Ends P linking t ((gate src raise >>= fun _ => p) t) (nested src q t.toParserState) := by
  by_cases hlimit : t.depth < maxDepth
  · simp only [Bind.bind, EStateM.bind, gate, nested, hlimit, if_true]
    exact h hlimit
  · simp only [Bind.bind, EStateM.bind, gate, nested, hlimit, if_false]
    exact .error (fun _ => rfl) (adds_zero rfl rfl rfl rfl rfl)

theorem Mirrors.behindLink {p : Reader α} {q : Parser α} {r : Routine}
    (h : Mirrors (fun c => c = some r) true p q) (hr : r.readsChain = true) :
    Mirrors (fun c => c = some r) true (Levels.behindLink src p) (nested src q) := by
  intro t
  refine ends_gate fun hlimit => ?_
  have hends := h t.link
  change Ends _ true t.link (p t.link) (q t.toParserState.opened) at hends
  generalize p t.link = outcome at hends ⊢
  generalize q t.toParserState.opened = outcome' at hends ⊢
  cases hends with
  | ok _ h => exact .ok nofun (h.behindLink hlimit hr)
  | error _ h => exact .error nofun (h.behindLink hlimit hr)

theorem Mirrors.within {p : Reader α} {q : Parser α} {r : Routine} (h : Mirrors P false p q)
    (hP : P (some r)) :
    Mirrors (fun c => Routine.mayCall c r = true) false (Levels.within src (Levels.call r p))
      (nested src q) := by
  intro t
  -- a refused level records nothing; an opened one closes on both ways out
  refine ends_gate fun hlimit => ?_
  have hends := h (t.enter.record (.called r))
  change Ends P false _ (p (t.enter.record (.called r))) (q t.toParserState.opened) at hends
  simp only [Levels.call, lastly]
  generalize p (t.enter.record (.called r)) = outcome at hends ⊢
  generalize q t.toParserState.opened = outcome' at hends ⊢
  cases hends with
  | ok hn h =>
    obtain rfl := hn rfl
    exact .ok hn (h.within hlimit hP true)
  | error hn h =>
    obtain rfl := hn rfl
    exact .error hn (h.within hlimit hP false)

end Rules

/-! ### The grammar -/

/-- Read with the count and with some fuel, every part of the grammar does the same as read plainly, in
the routines that it is a part of. -/
structure AllMirror (src : Lexemes) (fuel : ℕ) : Prop where
  expression : ∀ least, Mirrors (fun c => Routine.mayCall c .expression = true) false
    (expression src fuel least) (expression src fuel least)
  operators : ∀ least left, Mirrors (fun c => c = some .body) true (operators src fuel least left)
    (operators src fuel least left)
  unary : Mirrors (fun c => c = some .unary ∨ c = some .operand) false (unary src fuel)
    (unary src fuel)
  primary : Mirrors (fun c => c = some .primary) false (primary src fuel)
    (primary src fuel)
  elements : ∀ closer, Mirrors (fun c => c = some .items ∨ c = some .arguments) false
    (elements src fuel closer) (elements src fuel closer)
  moreElements : ∀ closer, Mirrors (fun c => c = some .items ∨ c = some .arguments) false
    (moreElements src fuel closer) (moreElements src fuel closer)
  members : ∀ base, Mirrors (fun c => c = some .members) true (members src fuel base)
    (members src fuel base)

variable {fuel : ℕ}

theorem allMirror_zero : AllMirror src 0 where
  expression _ := by
    rw [expression, expression]
    exact mirrors_lift (steady_throw _)
  operators _ _ := by
    rw [operators, operators]
    exact mirrors_lift (steady_throw _)
  unary := by
    rw [unary, unary]
    exact mirrors_lift (steady_throw _)
  primary := by
    rw [primary, primary]
    exact mirrors_lift (steady_throw _)
  elements _ := by
    rw [elements, elements]
    exact mirrors_lift (steady_throw _)
  moreElements _ := by
    rw [moreElements, moreElements]
    exact mirrors_lift (steady_throw _)
  members _ := by
    rw [members, members]
    exact mirrors_lift (steady_throw _)

theorem expression_mirrors (ih : AllMirror src fuel) (least : Precedence) :
    Mirrors (fun c => Routine.mayCall c .expression = true) false
      (expression src (fuel + 1) least) (expression src (fuel + 1) least) := by
  rw [expression, expression]
  -- from the inside: an operand and the chain behind it, the body, and the expression around it
  have hunary : Mirrors (fun c => c = some .body) false (call .unary (unary src fuel))
      (unary src fuel) :=
    (ih.unary.call (r := .unary) rfl (.inl rfl)).inside rfl
  have hbody := (hunary.bind fun left => ih.operators least left).chain rfl
  exact (hbody.within (r := .body) rfl).call rfl rfl

theorem operators_mirrors (ih : AllMirror src fuel) (least : Precedence) (left : Expr) :
    Mirrors (fun c => c = some .body) true (operators src (fuel + 1) least left)
      (operators src (fuel + 1) least left) := by
  rw [operators, operators]
  have hexpression : ∀ least, Mirrors (fun c => c = some .body) false (expression src fuel least)
      (expression src fuel least) :=
    fun least => (ih.expression least).inside rfl
  refine (mirrors_lift steady_peek).bind fun next => ?_
  split
  · -- a conditional
    split
    · refine (mirrors_lift steady_advance).bind fun _ => Mirrors.behindLink ?_ rfl
      refine (hexpression _).bind fun _ => (mirrors_lift (steady_expect _)).bind fun _ => ?_
      exact (hexpression _).bind fun _ => ih.operators _ _
    · exact mirrors_pure left
  · -- a fallback
    split
    · refine (mirrors_lift steady_advance).bind fun _ => Mirrors.behindLink ?_ rfl
      exact (hexpression _).bind fun _ => ih.operators _ _
    · exact mirrors_pure left
  · -- a binary operator
    split
    · refine (mirrors_lift steady_advance).bind fun _ => Mirrors.behindLink ?_ rfl
      exact (hexpression _).bind fun _ => ih.operators _ _
    · exact mirrors_pure left
  · exact mirrors_pure left

theorem unary_mirrors (ih : AllMirror src fuel) :
    Mirrors (fun c => c = some .unary ∨ c = some .operand) false (unary src (fuel + 1))
      (unary src (fuel + 1)) := by
  rw [unary, unary]
  have hoperand : Mirrors _ false (within src (call .operand (unary src fuel)))
    (nested src (unary src fuel)) := ih.unary.within (.inr rfl)
  have hprimary := ih.primary.call (r := .primary) rfl rfl
  have hmembers := fun base => ((ih.members base).chain rfl).call (r := .members) rfl rfl
  refine (mirrors_lift steady_peek).bind fun next => ?_
  split
  · exact (mirrors_lift steady_advance).bind fun _ =>
      (hoperand.insideEither rfl rfl).bind fun _ => mirrors_pure _
  · exact (mirrors_lift steady_advance).bind fun _ =>
      (hoperand.insideEither rfl rfl).bind fun _ => mirrors_pure _
  · exact (hprimary.insideEither rfl rfl).bind fun base => (hmembers base).insideEither rfl rfl

theorem primary_mirrors (ih : AllMirror src fuel) :
    Mirrors (fun c => c = some .primary) false (primary src (fuel + 1))
      (primary src (fuel + 1)) := by
  rw [primary, primary]
  refine mirrors_ahead_bind fun ls => ?_
  cases ls with
  | nil => exact mirrors_lift (steady_unexpected _)
  | cons l rest =>
    refine (mirrors_lift steady_advance).bind fun _ => ?_
    generalize atom? l = atom
    rcases atom with _ | e | e
    · generalize l.token = token
      cases token with
      | leftParen =>
        exact ((ih.expression .ternary).inside rfl).bind fun e =>
          (mirrors_lift (steady_expect _)).bind fun _ => mirrors_pure e
      | leftBrace =>
        have hitems := (ih.elements .rightBrace).call (r := .items) rfl (.inl rfl)
        exact (hitems.inside rfl).bind fun _ => mirrors_pure _
      | _ => exact mirrors_lift (steady_throw _)
    · exact mirrors_lift (steady_throw _)
    · exact mirrors_pure _

theorem elements_mirrors (ih : AllMirror src fuel) (closer : Token) :
    Mirrors (fun c => c = some .items ∨ c = some .arguments) false
      (elements src (fuel + 1) closer) (elements src (fuel + 1) closer) := by
  rw [elements, elements]
  refine (mirrors_lift steady_peek).bind fun next => ?_
  split
  · exact (mirrors_lift steady_advance).bind fun _ => mirrors_pure _
  · exact ih.moreElements closer

theorem moreElements_mirrors (ih : AllMirror src fuel) (closer : Token) :
    Mirrors (fun c => c = some .items ∨ c = some .arguments) false
      (moreElements src (fuel + 1) closer) (moreElements src (fuel + 1) closer) := by
  rw [moreElements, moreElements]
  refine ((ih.expression .ternary).insideEither rfl rfl).bind fun _ =>
    (mirrors_lift steady_peek).bind fun next => ?_
  split
  · exact (mirrors_lift steady_advance).bind fun _ => (ih.moreElements closer).bind fun _ =>
      mirrors_pure _
  · split
    · exact (mirrors_lift steady_advance).bind fun _ => mirrors_pure _
    · exact mirrors_lift (steady_unexpected _)

theorem members_mirrors (ih : AllMirror src fuel) (base : Expr) :
    Mirrors (fun c => c = some .members) true (members src (fuel + 1) base)
      (members src (fuel + 1) base) := by
  rw [members, members]
  refine (mirrors_lift steady_peek).bind fun next => ?_
  dsimp only
  split
  · -- a property or a call
    refine (mirrors_lift steady_advance).bind fun _ => Mirrors.behindLink ?_ rfl
    refine (mirrors_lift steady_memberName).bind fun _ => (mirrors_lift steady_peek).bind fun _ => ?_
    split
    · have harguments := (ih.elements .rightParen).call (r := .arguments) rfl (.inr rfl)
      refine (mirrors_lift steady_advance).bind fun _ => ?_
      exact (harguments.inside rfl).bind fun _ => ih.members _
    · exact ih.members _
  · split
    · -- an index
      refine (mirrors_lift steady_advance).bind fun _ => Mirrors.behindLink ?_ rfl
      exact ((ih.expression .ternary).inside rfl).bind fun _ =>
        (mirrors_lift (steady_expect _)).bind fun _ => ih.members _
    · exact mirrors_pure _

theorem allMirror : ∀ fuel, AllMirror src fuel
  | 0 => allMirror_zero
  | fuel + 1 =>
    have ih := allMirror fuel
    { expression := expression_mirrors ih
      operators := operators_mirrors ih
      unary := unary_mirrors ih
      primary := primary_mirrors ih
      elements := elements_mirrors ih
      moreElements := moreElements_mirrors ih
      members := members_mirrors ih }

theorem wholeExpression_mirrors (fuel : ℕ) :
    Mirrors (fun c => c = none) false (wholeExpression src fuel)
      (wholeExpression src fuel) := by
  rw [wholeExpression, wholeExpression]
  refine (((allMirror fuel).expression _).mono ?_).bind fun e => mirrors_ahead_bind fun ls => ?_
  · rintro _ rfl
    rfl
  · cases ls with
    | nil => exact mirrors_pure e
    | cons l rest => exact mirrors_lift (steady_unexpected _)

/-! ### Whole texts -/

/-- The reader that keeps count, run on the tokens of a text, beside the one of the grammar. -/
theorem read_ends (src : Lexemes) :
    Ends (fun c => c = none) false ⟨⟨src.lexemes, 0⟩, 0, []⟩ (read src)
      ((wholeExpression src (fuelFor src.lexemes.length) : Parser Expr) ⟨src.lexemes, 0⟩) :=
  wholeExpression_mirrors _ _

/-- From the beginning to the end. -/
theorem Adds.path_of_start {n : ℕ} {t : State} {s : ParserState} (hn : n = 0)
    (h : Adds (fun c => c = none) n ⟨⟨src.lexemes, 0⟩, 0, []⟩ t s) : Path ⟨[], 0⟩ t.log ⟨[], 0⟩ := by
  subst hn
  obtain ⟨new, hnew, hpath⟩ := h.path
  rw [List.nil_append] at hnew
  rw [hnew]
  exact hpath [] (Nat.le_refl 0) rfl

/-- Fuel for each token, and for a few calls more, is enough. -/
theorem fuel_suffices {fuel : ℕ} (hfuel : 5 * src.lexemes.length + 3 ≤ fuel) (t : State) :
    (wholeExpression src fuel : Reader Expr) ⟨⟨src.lexemes, 0⟩, 0, []⟩ ≠ .error .outOfFuel t := by
  intro hread
  have hends : Ends (fun c => c = none) false ⟨⟨src.lexemes, 0⟩, 0, []⟩
      ((wholeExpression src fuel : Reader Expr) ⟨⟨src.lexemes, 0⟩, 0, []⟩)
      ((wholeExpression src fuel : Parser Expr) ⟨src.lexemes, 0⟩) := wholeExpression_mirrors fuel _
  have hgrammar := wholeExpression_ne_outOfFuel_of_le hfuel
  rw [hread] at hends
  unfold Ensures at hgrammar
  generalize (wholeExpression src fuel : Parser Expr) _ = outcome at hends hgrammar
  cases hends
  exact hgrammar rfl

/-- The fuel does not run out. -/
theorem read_ne_outOfFuel (src : Lexemes) (t : State) : read src ≠ .error .outOfFuel t :=
  fuel_suffices (by rw [fuelFor]; omega) t

/-- A text is read as it is without counting, and whatever happens on the way may happen. -/
theorem parse_path (text : String) :
    (parse text).1 = ExprLang.parse text ∧ Path ⟨[], 0⟩ (parse text).2 ⟨[], 0⟩ := by
  unfold parse ExprLang.parse
  split
  · exact ⟨rfl, .nil _⟩
  · generalize lexemesOf text = src
    have hends := read_ends src
    dsimp only
    split
    · next e hnil hfailure =>
      -- no token can be read, and nothing is called
      simp only [parseLexemes, hnil, hfailure]
      exact ⟨trivial, .nil _⟩
    · next hread =>
      rw [parseLexemes_of_read fun hnil => Option.eq_none_iff_forall_ne_some.mpr fun e => hread e hnil]
      generalize read src = outcome at hends ⊢
      generalize (wholeExpression src _ : Parser Expr) _ = outcome' at hends ⊢
      cases hends with
      | ok hn h => exact ⟨rfl, h.path_of_start (hn rfl)⟩
      | @error e n t s hn h =>
        cases e with
        | error e => exact ⟨rfl, h.path_of_start (hn rfl)⟩
        | outOfFuel => exact ⟨rfl, h.path_of_start (hn rfl)⟩

/-- **The counter is balanced on every path, and bounds the recursion.**  The reader that keeps count
reads every text as `parse` does, and its fuel does not run out.  Of all that happens on the way,

* every call of a routine returns, with a result or with an error, and then the counter is what it was
  at the call; until then the call stays active with those around it;
* the counter is never above the limit;
* what is taken off the counter was on it;
* at each moment there are no more bodies of expressions and operands of prefix operators active, which
  are the calls that have been let in, than the limit says;
* at each moment there are no more calls of expressions and of operands of prefix operators active than
  the limit says, not counting an expression that is called at the limit;
* such an expression is not let in, and returns before anything else happens;
* at each moment there are no more calls of all routines active than a multiple of the limit. -/
theorem parse_balanced (text : String) :
    let log := (parse text).2
    (parse text).1 = ExprLang.parse text ∧
      (∀ t, read (lexemesOf text) ≠ .error .outOfFuel t) ∧
      (∀ before r s after, log = before ++ ⟨.called r, s⟩ :: after →
        ∃ during ok s' rest, after = during ++ ⟨.returned r ok, s'⟩ :: rest ∧ s'.depth = s.depth ∧
          active (before ++ ⟨.called r, s⟩ :: during) = r :: active before ∧
          ∀ first, first <+: during →
            r :: active before <:+ active (before ++ ⟨.called r, s⟩ :: first)) ∧
      (∀ m ∈ log, m.state.depth ≤ maxDepth) ∧
      (∀ before s after, log = before ++ ⟨.left, s⟩ :: after → counterAfter before = s.depth + 1) ∧
      (∀ before links s after, log = before ++ ⟨.unlinked links, s⟩ :: after →
        counterAfter before = s.depth + links) ∧
      (∀ before after, log = before ++ after →
        (active before).countP Routine.holdsLevel ≤ maxDepth) ∧
      (∀ before after, log = before ++ after →
        recursions (active before) ≤ maxDepth ∨
          ∃ earlier s, before = earlier ++ [⟨.called .expression, s⟩] ∧ s.depth = maxDepth ∧
            recursions (active earlier) ≤ maxDepth) ∧
      (∀ before s after, log = before ++ ⟨.called .expression, s⟩ :: after → s.depth = maxDepth →
        ∃ ok s' rest, after = ⟨.returned .expression ok, s'⟩ :: rest) ∧
      ∀ before after, log = before ++ after → (active before).length ≤ 5 * maxDepth + 1 := by
  intro log
  obtain ⟨hparse, hpath⟩ := parse_path text
  change Path ⟨[], 0⟩ log ⟨[], 0⟩ at hpath
  -- all that is left is about the path: each part is one fact about paths from nothing to nothing
  refine ⟨hparse, read_ne_outOfFuel _, ?_, ?_, ?_, ?_, ?_, ?_, ?_, ?_⟩
  · intro before r s after hlog
    exact (hlog ▸ hpath).exists_return_of_called
  · intro m hm
    obtain ⟨before, after, hlog⟩ := List.append_of_mem hm
    exact (hlog ▸ hpath).depth_le
  · intro before s after hlog
    exact (hlog ▸ hpath).counter_of_left
  · intro before links s after hlog
    exact (hlog ▸ hpath).counter_of_unlinked
  · intro before after hlog
    exact (hlog ▸ hpath).levels_le
  · intro before after hlog
    exact (hlog ▸ hpath).recursions_le
  · intro before s after hlog hlimit
    exact (hlog ▸ hpath).returns_of_limit hlimit
  · intro before after hlog
    exact (hlog ▸ hpath).length_active_le

end Levels
end ExprLang
