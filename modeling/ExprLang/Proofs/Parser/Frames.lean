import Mathlib.Data.List.Basic
import ExprLang.Expr.Levels

/-!
# What may happen to the counter

The record of reading a text is held against rules.  They know which calls are active, each with the
counter that it found, and they say what may happen next and what becomes of the counter.  A routine is
called by those that call it and by no other.  A call returns only as the innermost one, and only with
the counter that it found.  The counter is raised only below the limit, and lowered only by what it was
raised by since the innermost call; a routine that holds a level is called only after that.

From the rules follows what holds at each moment: the counter does not exceed the limit, no more calls
that hold a level are active than it says, and between two of these there are only a few others.

## Main definitions

* `Levels.active`, `Levels.recursions` — the calls that are active, and how many of them are those by
  which reading comes back to itself.
* `Levels.Routine.mayCall` — who calls whom.
* `Levels.Frames`, `Levels.Standing` — the active calls, and the counter with them.
* `Levels.Step`, `Levels.Path` — what may happen, and a record of which all may happen.
* `Levels.Standing.Sound` — what holds at each moment.

## Main results

* `Levels.Path.sound` — **the counter and the active calls stay within their limits**.
* `Levels.Path.exists_return_of_called` — **each call returns with the counter that it found**.
* `Levels.Path.levels_le`, `Levels.Path.recursions_le` — **the recursion is bounded**.
* `Levels.Path.returns_of_limit` — at the limit an expression is turned away, and has called nothing.
-/

namespace ExprLang
namespace Levels

/-! ### Active calls -/

/-- By calls of these, reading comes back to itself. -/
def Routine.isRecursion : Routine → Bool
  | expression | operand => true
  | _ => false

/-- What is active, the innermost call first, after something has happened. -/
def Event.update : Event → List Routine → List Routine
  | called r, calls => r :: calls
  | returned _ _, calls => calls.tail
  | _, calls => calls

/-- The calls that are active after what has happened, the innermost first. -/
def active (log : List Moment) : List Routine := log.foldl (fun calls m => m.event.update calls) []

/-- How many of the calls are recursions. -/
def recursions (calls : List Routine) : ℕ := calls.countP Routine.isRecursion

/-! ### Who calls whom -/

namespace Routine

/-- Who calls whom; nobody calls the expression that is the whole text. -/
def mayCall : Option Routine → Routine → Bool
  | none, expression => true
  | some expression, body => true
  | some body, unary => true
  | some body, expression => true
  | some unary, operand => true
  | some unary, primary => true
  | some unary, members => true
  | some operand, operand => true
  | some operand, primary => true
  | some operand, members => true
  | some primary, expression => true
  | some primary, items => true
  | some members, expression => true
  | some members, arguments => true
  | some items, expression => true
  | some arguments, expression => true
  | _, _ => false

/-- The calls of these hold a level: the counter has been raised for them. -/
def holdsLevel : Routine → Bool
  | body | operand => true
  | _ => false

/-- These read chains. -/
def readsChain : Routine → Bool
  | body | members => true
  | _ => false

/-- How many calls there can be up to a routine from the last one that holds a level. -/
def distance : Option Routine → ℕ
  | some body | some operand => 0
  | some unary => 1
  | some primary | some members => 2
  | none | some items | some arguments => 3
  | some expression => 4

theorem distance_le (caller : Option Routine) : distance caller ≤ 4 := by
  rcases caller with _ | r
  · decide
  · cases r <;> decide

/-- A call that holds no level is one further away. -/
theorem distance_lt {caller : Option Routine} {r : Routine} (h : mayCall caller r = true)
    (hr : r.holdsLevel = false) : distance caller < distance (some r) := by
  rcases caller with _ | c
  · cases r <;> first | contradiction | decide
  · cases c <;> cases r <;> first | contradiction | decide

/-- Of an expression and its body, which is called at once, the first is a recursion and the second
holds the level. -/
theorem recursion_of_mayCall {caller : Option Routine} {r : Routine} (h : mayCall caller r = true) :
    (if r.isRecursion then 1 else 0) + (if caller = some .expression then 1 else 0) =
      (if r.holdsLevel then 1 else 0) + if r = .expression then 1 else 0 := by
  rcases caller with _ | c
  · cases r <;> first | contradiction | decide
  · cases c <;> cases r <;> first | contradiction | decide

end Routine

/-- The active calls, the innermost first, each with the counter that it found. -/
abbrev Frames := List (Routine × ℕ)

namespace Frames

def routines (calls : Frames) : List Routine := calls.map Prod.fst

/-- The innermost routine. -/
def caller : Frames → Option Routine
  | [] => none
  | (r, _) :: _ => some r

theorem caller_cons (r : Routine) (d : ℕ) (calls : Frames) : caller ((r, d) :: calls) = some r := rfl

/-- The counter that the innermost call found. -/
def floor : Frames → ℕ
  | [] => 0
  | (_, d) :: _ => d

/-- The innermost call reads a chain. -/
def InChain (calls : Frames) : Prop := ∃ r, calls.caller = some r ∧ r.readsChain = true

/-- How many of the calls hold a level. -/
def levels (calls : Frames) : ℕ := calls.countP fun call => call.1.holdsLevel

theorem levels_cons (r : Routine) (d : ℕ) (calls : Frames) :
    levels ((r, d) :: calls) = levels calls + if r.holdsLevel then 1 else 0 :=
  List.countP_cons

/-- Each routine was called by one that calls it.  None found the counter lower than the one that
called it did, and those that hold a level found it higher. -/
def Ordered : Frames → Prop
  | [] => True
  | (r, d) :: calls => Routine.mayCall (caller calls) r = true ∧ floor calls ≤ d ∧
    (r.holdsLevel = true → floor calls < d) ∧ Ordered calls

/-- Each level that is held is one that the counter counts. -/
theorem Ordered.levels_le {calls : Frames} (h : Ordered calls) : calls.levels ≤ calls.floor := by
  induction calls with
  | nil => exact Nat.le_refl 0
  | cons call calls ih =>
    obtain ⟨r, d⟩ := call
    obtain ⟨-, hle, hlt, hcalls⟩ := h
    have hlevels := ih hcalls
    rw [levels_cons]
    show _ ≤ d
    split
    · next hr =>
      have := hlt hr
      omega
    · omega

/-- From one call that holds a level to the next there are no more than four others. -/
theorem Ordered.length_le {calls : Frames} (h : Ordered calls) :
    calls.length + 3 ≤ 5 * calls.levels + Routine.distance calls.caller := by
  induction calls with
  | nil => exact Nat.le_refl 3
  | cons call calls ih =>
    obtain ⟨r, d⟩ := call
    obtain ⟨hcaller, -, -, hcalls⟩ := h
    have hlength := ih hcalls
    rw [levels_cons, List.length_cons]
    show _ ≤ _ + Routine.distance (some r)
    split
    · have := Routine.distance_le (caller calls)
      omega
    · next hr =>
      have := Routine.distance_lt hcaller (eq_false_of_ne_true hr)
      omega

/-- The expressions and operands are as many as the calls that hold a level, and one more if an
expression is the innermost call. -/
theorem Ordered.recursions_eq {calls : Frames} (h : Ordered calls) :
    recursions calls.routines = calls.levels + if calls.caller = some .expression then 1 else 0 := by
  induction calls with
  | nil => rfl
  | cons call calls ih =>
    obtain ⟨r, d⟩ := call
    obtain ⟨hcaller, -, -, hcalls⟩ := h
    have hrest := ih hcalls
    have hcall := Routine.recursion_of_mayCall hcaller
    simp only [routines, recursions, caller_cons, List.map_cons, List.countP_cons, levels_cons,
      Option.some.injEq] at hrest ⊢
    omega

end Frames

/-! ### The rules -/

/-- The active calls and the counter. -/
structure Standing where
  calls : Frames
  counter : ℕ

/-- What may happen, and what becomes of the active calls and of the counter. -/
inductive Step : Standing → Moment → Standing → Prop
  | called {calls : Frames} {d : ℕ} {s : ParserState} (r : Routine) (hs : s.depth = d)
    (hcaller : Routine.mayCall calls.caller r = true)
    (hlevel : r.holdsLevel = true → calls.floor < d) :
    Step ⟨calls, d⟩ ⟨.called r, s⟩ ⟨(r, d) :: calls, d⟩
  | returned {calls : Frames} {d : ℕ} {s : ParserState} (r : Routine) (ok : Bool)
    (hs : s.depth = d) : Step ⟨(r, d) :: calls, d⟩ ⟨.returned r ok, s⟩ ⟨calls, d⟩
  | entered {calls : Frames} {d : ℕ} {s : ParserState} (hs : s.depth = d + 1)
    (hlimit : d < maxDepth) : Step ⟨calls, d⟩ ⟨.entered, s⟩ ⟨calls, d + 1⟩
  | left {calls : Frames} {d : ℕ} {s : ParserState} (hs : s.depth = d) (hfloor : calls.floor ≤ d) :
    Step ⟨calls, d + 1⟩ ⟨.left, s⟩ ⟨calls, d⟩
  | linked {calls : Frames} {d : ℕ} {s : ParserState} (hs : s.depth = d + 1)
    (hlimit : d < maxDepth) (hchain : calls.InChain) : Step ⟨calls, d⟩ ⟨.linked, s⟩ ⟨calls, d + 1⟩
  | unlinked {calls : Frames} {d : ℕ} {s : ParserState} (links : ℕ) (hs : s.depth = d)
    (hfloor : calls.floor ≤ d) (hchain : calls.InChain) :
    Step ⟨calls, d + links⟩ ⟨.unlinked links, s⟩ ⟨calls, d⟩

/-- One thing happens after the other, each as it may. -/
inductive Path : Standing → List Moment → Standing → Prop
  | nil (st : Standing) : Path st [] st
  | cons {st st₁ st₂ : Standing} {m : Moment} {log : List Moment} (h : Step st m st₁)
    (hlog : Path st₁ log st₂) : Path st (m :: log) st₂

/-- What holds at each moment. -/
structure Standing.Sound (st : Standing) : Prop where
  ordered : st.calls.Ordered
  floor : st.calls.floor ≤ st.counter
  limit : st.counter ≤ maxDepth

variable {st st₁ st₂ : Standing} {m : Moment} {log log' : List Moment}

/-! ### One step -/

theorem Step.update (h : Step st m st₁) :
    m.event.update st.calls.routines = st₁.calls.routines := by
  cases h <;> rfl

theorem Step.depth (h : Step st m st₁) : m.state.depth = st₁.counter := by
  cases h <;> assumption

theorem Step.sound (h : Step st m st₁) (hst : st.Sound) : st₁.Sound := by
  obtain ⟨hordered, hfloor, hlimit⟩ := hst
  cases h with
  | called r _ hcaller hlevel =>
    exact ⟨⟨hcaller, hfloor, hlevel, hordered⟩, Nat.le_refl _, hlimit⟩
  | returned r ok _ => exact ⟨hordered.2.2.2, hordered.2.1, hlimit⟩
  | entered _ hlt => exact ⟨hordered, Nat.le_succ_of_le hfloor, hlt⟩
  | left _ hle => exact ⟨hordered, hle, Nat.le_of_succ_le hlimit⟩
  | linked _ hlt _ => exact ⟨hordered, Nat.le_succ_of_le hfloor, hlt⟩
  | unlinked links _ hle _ => exact ⟨hordered, hle, Nat.le_trans (Nat.le_add_right _ links) hlimit⟩

/-- At the limit an expression can do nothing but return. -/
theorem Step.returned_of_limit {calls : Frames}
    (h : Step ⟨(.expression, maxDepth) :: calls, maxDepth⟩ m st₁) :
    ∃ ok, m.event = .returned .expression ok := by
  generalize hst : (⟨(.expression, maxDepth) :: calls, maxDepth⟩ : Standing) = st at h
  cases h with
  | called r _ hcaller hlevel =>
    cases hst
    -- it calls nothing but its body, and that only behind the gate
    cases r with
    | body => exact absurd (hlevel rfl) (Nat.lt_irrefl _)
    | _ => cases hcaller
  | returned r ok _ =>
    cases hst
    exact ⟨ok, rfl⟩
  | entered _ hlimit | linked _ hlimit _ =>
    cases hst
    exact absurd hlimit (Nat.lt_irrefl _)
  | left _ hfloor =>
    obtain ⟨rfl, hd⟩ := Standing.mk.inj hst
    have : maxDepth ≤ _ := hfloor
    omega
  | unlinked links _ _ hchain =>
    obtain ⟨rfl, -⟩ := Standing.mk.inj hst
    obtain ⟨r, hr, hreads⟩ := hchain
    cases hr
    cases hreads

/-- An expression that has found the counter at the limit has just been called. -/
theorem Step.called_of_limit {calls : Frames} {d : ℕ} (hst : st.Sound)
    (h : Step st m ⟨(.expression, maxDepth) :: calls, d⟩) :
    ∃ s, m = ⟨.called .expression, s⟩ ∧ s.depth = maxDepth ∧ st.calls = calls := by
  obtain ⟨hordered, hfloor, hlimit⟩ := hst
  cases h with
  | called r hs _ _ => exact ⟨_, rfl, hs, rfl⟩
  | @returned _ d s r ok hs =>
    -- what has returned was its body, for which the counter had to be raised
    obtain ⟨hcaller, -, hlevel, -⟩ := hordered
    cases r with
    | body => exact absurd (hlevel rfl) (Nat.not_lt.mpr hlimit)
    | _ => cases hcaller
  | entered _ hlt => exact absurd hlt (Nat.not_lt.mpr hfloor)
  | left _ hle =>
    have : maxDepth ≤ d := hle
    have : d + 1 ≤ maxDepth := hlimit
    omega
  | linked _ _ hchain | unlinked _ _ _ hchain =>
    obtain ⟨r, hr, hreads⟩ := hchain
    cases hr
    cases hreads

/-- There are no more calls that hold a level than there may be levels. -/
theorem Standing.Sound.levels_le (h : st.Sound) : st.calls.levels ≤ maxDepth :=
  Nat.le_trans h.ordered.levels_le (Nat.le_trans h.floor h.limit)

theorem Standing.Sound.length_le (h : st.Sound) : st.calls.length ≤ 5 * maxDepth + 1 := by
  have hlength := h.ordered.length_le
  have hlevels := h.levels_le
  have hdistance := Routine.distance_le st.calls.caller
  omega

/-- The expression that is turned away is the one recursion too many. -/
theorem Standing.Sound.recursions_le (h : st.Sound)
    (hinner : st.calls.head? ≠ some (.expression, maxDepth)) :
    recursions st.calls.routines ≤ maxDepth := by
  rw [h.ordered.recursions_eq]
  by_cases hcaller : st.calls.caller = some .expression
  · obtain ⟨calls, counter⟩ := st
    obtain ⟨hordered, hfloor, hlimit⟩ := h
    rcases calls with _ | ⟨⟨r, d⟩, calls⟩
    · cases hcaller
    · obtain rfl : r = .expression := Option.some.inj hcaller
      have hlevels : Frames.levels calls ≤ d := Nat.le_trans hordered.2.2.2.levels_le hordered.2.1
      have hbelow : d ≠ maxDepth := fun hd => hinner (hd ▸ rfl)
      have hd : d ≤ maxDepth := Nat.le_trans hfloor hlimit
      simp only [Frames.levels_cons, hcaller, Routine.holdsLevel, Bool.false_eq_true, if_false, if_true]
      omega
  · rw [if_neg hcaller]
    exact h.levels_le

/-! ### Many steps -/

theorem Path.append (h : Path st log st₁) (h' : Path st₁ log' st₂) : Path st (log ++ log') st₂ := by
  induction h with
  | nil => exact h'
  | cons hstep _ ih => exact .cons hstep (ih h')

theorem Path.single (h : Step st m st₁) : Path st [m] st₁ := .cons h (.nil st₁)

/-- A record of what may happen can be cut anywhere. -/
theorem Path.exists_between (h : Path st (log ++ log') st₂) :
    ∃ st₁, Path st log st₁ ∧ Path st₁ log' st₂ := by
  induction log generalizing st with
  | nil => exact ⟨st, .nil st, h⟩
  | cons m log ih =>
    cases h with
    | cons hstep hlog =>
      obtain ⟨st₁, hbefore, hafter⟩ := ih hlog
      exact ⟨st₁, .cons hstep hbefore, hafter⟩

/-- **The counter and the active calls stay within the limit.** -/
theorem Path.sound (h : Path st log st₁) (hst : st.Sound) : st₁.Sound := by
  induction h with
  | nil => exact hst
  | cons hstep _ ih => exact ih (hstep.sound hst)

/-- The counter is what the last moment says. -/
theorem Path.counter (h : Path st log st₁) :
    st₁.counter = (log.getLast?.map fun m => m.state.depth).getD st.counter := by
  induction h with
  | nil => rfl
  | @cons st st₁ st₂ m log hstep hlog ih =>
    rw [ih, List.getLast?_cons]
    cases hlast : log.getLast? with
    | none => exact hstep.depth.symm
    | some last => rfl

theorem Path.foldl_update (h : Path st log st₁) :
    log.foldl (fun calls m => m.event.update calls) st.calls.routines = st₁.calls.routines := by
  induction h with
  | nil => rfl
  | cons hstep _ ih => rw [List.foldl_cons, hstep.update, ih]

/-- Each call returns before the calls around it do, with the counter that it found; in between it stays
active with them. -/
theorem Path.exists_return {r : Routine} {d : ℕ} {calls : Frames} (h : Path st log st₁)
    {inner : Frames} (hst : st.calls = inner ++ (r, d) :: calls)
    (hreturned : st₁.calls.length ≤ calls.length) :
    ∃ during ok s after, log = during ++ ⟨.returned r ok, s⟩ :: after ∧ s.depth = d ∧
      Path st during ⟨(r, d) :: calls, d⟩ ∧
      ∀ first, first <+: during → ∃ st', Path st first st' ∧ (r, d) :: calls <:+ st'.calls := by
  induction h generalizing inner with
  | nil =>
    rw [hst, List.length_append, List.length_cons] at hreturned
    omega
  | @cons st st' st₁ m log hstep hlog ih =>
    have hlater : ∀ inner : Frames, st'.calls = inner ++ (r, d) :: calls →
        ∃ during ok s after, m :: log = during ++ ⟨.returned r ok, s⟩ :: after ∧ s.depth = d ∧
          Path st during ⟨(r, d) :: calls, d⟩ ∧
          ∀ first, first <+: during → ∃ st', Path st first st' ∧ (r, d) :: calls <:+ st'.calls := by
      intro inner hinner
      obtain ⟨during, ok, s, after, hlog, hs, hduring, hstays⟩ := ih hinner hreturned
      refine ⟨m :: during, ok, s, after, by rw [hlog]; rfl, hs, .cons hstep hduring, ?_⟩
      intro first hfirst
      rcases List.prefix_cons_iff.mp hfirst with rfl | ⟨first, rfl, hrest⟩
      · exact ⟨st, .nil st, _, hst.symm⟩
      · obtain ⟨st', hpath, hactive⟩ := hstays first hrest
        exact ⟨st', .cons hstep hpath, hactive⟩
    cases hstep with
    | @called calls' d' s r' _ _ _ =>
      exact hlater ((r', d') :: inner) (congrArg ((r', d') :: ·) hst)
    | @returned calls' d' s r' ok hs =>
      cases inner with
      | nil =>
        -- this is the return of the call itself
        cases hst
        refine ⟨[], ok, s, log, rfl, hs, .nil _, ?_⟩
        intro first hfirst
        obtain rfl := List.prefix_nil.mp hfirst
        exact ⟨_, .nil _, List.suffix_refl _⟩
      | cons call inner =>
        rw [List.cons_append] at hst
        exact hlater inner (List.cons.inj hst).2
    | entered | left | linked | unlinked => exact hlater inner hst

/-! ### Whole records

A whole record begins and ends with no call active and the counter at zero. -/

/-- The counter after what has happened. -/
def counterAfter (log : List Moment) : ℕ := (log.getLast?.map fun m => m.state.depth).getD 0

theorem sound_start : (⟨[], 0⟩ : Standing).Sound := ⟨trivial, Nat.le_refl 0, Nat.zero_le _⟩

section Whole

variable {before after : List Moment} {s : ParserState}

theorem Path.active_eq (h : Path ⟨[], 0⟩ log st) : active log = st.calls.routines := h.foldl_update

/-- **The recursion is bounded.**  At each moment no more calls are active that have been let in than the
limit says. -/
theorem Path.levels_le (h : Path ⟨[], 0⟩ (before ++ after) st) :
    (active before).countP Routine.holdsLevel ≤ maxDepth := by
  obtain ⟨st₁, hbefore, -⟩ := h.exists_between
  rw [hbefore.active_eq, Frames.routines, List.countP_map]
  exact (hbefore.sound sound_start).levels_le

/-- At each moment there are no more recursions than the limit says, not counting an expression that is
called at the limit. -/
theorem Path.recursions_le (h : Path ⟨[], 0⟩ (before ++ after) st) :
    recursions (active before) ≤ maxDepth ∨
      ∃ earlier s, before = earlier ++ [⟨.called .expression, s⟩] ∧ s.depth = maxDepth ∧
        recursions (active earlier) ≤ maxDepth := by
  obtain ⟨st₁, hbefore, -⟩ := h.exists_between
  by_cases hinner : st₁.calls.head? = some (.expression, maxDepth)
  · obtain ⟨calls, d⟩ := st₁
    obtain ⟨calls, rfl⟩ := List.head?_eq_some_iff.mp hinner
    right
    rcases List.eq_nil_or_concat' before with rfl | ⟨earlier, m, rfl⟩
    · cases hbefore
    · obtain ⟨st', hearlier, hlast⟩ := hbefore.exists_between
      have hsound := hearlier.sound sound_start
      cases hlast with
      | cons hstep hnil =>
        cases hnil
        obtain ⟨s, rfl, hs, rfl⟩ := hstep.called_of_limit hsound
        have hcaller := (hstep.sound hsound).ordered.1
        refine ⟨earlier, s, rfl, hs, ?_⟩
        rw [hearlier.active_eq]
        refine hsound.recursions_le fun hhead => ?_
        -- no expression calls an expression
        obtain ⟨calls, hcalls⟩ := List.head?_eq_some_iff.mp hhead
        rw [hcalls] at hcaller
        cases hcaller
  · left
    rw [hbefore.active_eq]
    exact (hbefore.sound sound_start).recursions_le hinner

theorem Path.length_active_le (h : Path ⟨[], 0⟩ (before ++ after) st) :
    (active before).length ≤ 5 * maxDepth + 1 := by
  obtain ⟨st₁, hbefore, -⟩ := h.exists_between
  rw [hbefore.active_eq, Frames.routines, List.length_map]
  exact (hbefore.sound sound_start).length_le

/-- A moment of a record is a step from what was before it. -/
theorem Path.exists_step (h : Path ⟨[], 0⟩ (before ++ m :: after) st) :
    ∃ calls st₁, Path ⟨[], 0⟩ before ⟨calls, counterAfter before⟩ ∧
      Step ⟨calls, counterAfter before⟩ m st₁ ∧ Path st₁ after st := by
  obtain ⟨⟨calls, d⟩, hbefore, hafter⟩ := h.exists_between
  obtain rfl : d = counterAfter before := hbefore.counter
  cases hafter with
  | cons hstep hlog => exact ⟨calls, _, hbefore, hstep, hlog⟩

theorem Path.depth_le (h : Path ⟨[], 0⟩ (before ++ m :: after) st) : m.state.depth ≤ maxDepth := by
  obtain ⟨calls, st₁, hbefore, hstep, -⟩ := h.exists_step
  rw [hstep.depth]
  exact (hstep.sound (hbefore.sound sound_start)).limit

theorem Path.counter_of_left (h : Path ⟨[], 0⟩ (before ++ ⟨.left, s⟩ :: after) st) :
    counterAfter before = s.depth + 1 := by
  obtain ⟨calls, st₁, -, hstep, -⟩ := h.exists_step
  generalize counterAfter before = d at hstep ⊢
  cases hstep with
  | left hs _ => rw [hs]

theorem Path.counter_of_unlinked {links : ℕ}
    (h : Path ⟨[], 0⟩ (before ++ ⟨.unlinked links, s⟩ :: after) st) :
    counterAfter before = s.depth + links := by
  obtain ⟨calls, st₁, -, hstep, -⟩ := h.exists_step
  generalize counterAfter before = d at hstep ⊢
  cases hstep with
  | unlinked _ hs _ _ => rw [hs]

/-- Each call returns, and then the counter is what it was at the call.  Until then it stays active with
the calls around it. -/
theorem Path.exists_return_of_called {r : Routine}
    (h : Path ⟨[], 0⟩ (before ++ ⟨.called r, s⟩ :: after) ⟨[], 0⟩) :
    ∃ during ok s' rest, after = during ++ ⟨.returned r ok, s'⟩ :: rest ∧ s'.depth = s.depth ∧
      active (before ++ ⟨.called r, s⟩ :: during) = r :: active before ∧
      ∀ first, first <+: during → r :: active before <:+ active (before ++ ⟨.called r, s⟩ :: first) := by
  obtain ⟨calls, st₁, hbefore, hstep, hafter⟩ := h.exists_step
  generalize counterAfter before = d at hbefore hstep
  -- a log that goes on from the call keeps the open calls it passes through
  have hthrough : ∀ {log : List Moment} {st' : Standing}, Path st₁ log st' →
      active (before ++ ⟨.called r, s⟩ :: log) = st'.calls.routines :=
    fun hlog => (hbefore.append (.cons hstep hlog)).active_eq
  rw [hbefore.active_eq]
  cases hstep with
  | called _ hs _ _ =>
    subst hs
    have hfirst : ((r, s.depth) :: calls : Frames) = [] ++ (r, s.depth) :: calls := rfl
    obtain ⟨during, ok, s', rest, hsplit, hdepth, hduring, hstays⟩ :=
      hafter.exists_return hfirst (Nat.zero_le _)
    refine ⟨during, ok, s', rest, hsplit, hdepth, hthrough hduring, ?_⟩
    intro first hprefix
    obtain ⟨st', hpath, hactive⟩ := hstays first hprefix
    rw [hthrough hpath]
    exact hactive.map Prod.fst

/-- At the limit an expression is turned away: it returns before anything else happens. -/
theorem Path.returns_of_limit
    (h : Path ⟨[], 0⟩ (before ++ ⟨.called .expression, s⟩ :: after) ⟨[], 0⟩)
    (hlimit : s.depth = maxDepth) :
    ∃ ok s' rest, after = ⟨.returned .expression ok, s'⟩ :: rest := by
  obtain ⟨calls, st₁, -, hstep, hafter⟩ := h.exists_step
  generalize counterAfter before = d at hstep
  cases hstep with
  | called _ hs _ _ =>
    obtain rfl : d = maxDepth := hs.symm.trans hlimit
    cases hafter with
    | @cons _ _ _ m rest hnext _ =>
      obtain ⟨ok, hevent⟩ := hnext.returned_of_limit
      obtain ⟨event, s'⟩ := m
      obtain rfl : event = .returned .expression ok := hevent
      exact ⟨ok, s', rest, rfl⟩

end Whole

end Levels
end ExprLang
