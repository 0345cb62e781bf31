import Mathlib.Data.Prod.Lex
import ExprLang.Proofs.Parser.Frames

/-!
# What may happen to the tokens

The record of reading a text is held against rules once more, now for the tokens.  An account of a record
says which calls are active, each with the number of tokens that it found ahead, which tokens are ahead,
and whether a call has returned with an error.  Tokens are never given back.  A call is made only where
fewer tokens are ahead than the call around it found, or as many if it is nearer to the routine that
reads an operand; a call returns with a result only if it has consumed something, but for the one that
reads members, of which there may be none; a link is added only for a token; and after an error nothing
but the ends of what has begun can happen.

So the active calls are in order by the tokens they found and, where these are the same, by how near they
are to an operand.  No call can come back to itself forever.

## Main definitions

* `Levels.Routine.toPrimary` — how near a routine is to an operand.
* `Levels.OpenCall.measure` — what decreases from a call to the calls inside it.
* `Levels.Account` — the active calls and the tokens, and what becomes of them.
* `Levels.Account.Allows`, `Levels.Account.Lawful` — what may happen, and a record of which all may.

## Main results

* `Levels.Account.Lawful.nested` — **the active calls are in order**.
* `Levels.Account.Lawful.length_lt_of_returned` — a call that has returned without an error has consumed
  something.
* `Levels.Account.Lawful.pairwise` — tokens are never given back.
-/

namespace ExprLang
namespace Levels

/-! ### What decreases -/

/-- How many calls there are to come from a routine to the one that reads an operand. -/
def Routine.toPrimary : Routine → ℕ
  | primary => 0
  | unary | operand => 1
  | body => 2
  | expression => 3
  | members | items | arguments => 4

/-- An active call, with the number of tokens that it found ahead. -/
structure OpenCall where
  routine : Routine
  found : ℕ

/-- The tokens that a call found, and for as many tokens the calls to come until one is consumed. -/
def OpenCall.measure (c : OpenCall) : ℕ ×ₗ ℕ := toLex (c.found, c.routine.toPrimary)

/-- It is only the counter of levels to which something happens. -/
def Event.ofLevels : Event → Bool
  | entered | left | unlinked _ => true
  | _ => false

/-! ### Accounts -/

/-- The active calls, the innermost first, the tokens ahead, and whether a call has returned with an
error. -/
structure Account where
  calls : List OpenCall
  ahead : List Lexeme
  failed : Bool

namespace Account

/-- Before anything has happened. -/
def start (src : Lexemes) : Account := ⟨[], src.lexemes, false⟩

/-- What becomes of an account by what happens. -/
def next (a : Account) : Moment → Account
  | ⟨.called r, s⟩ => ⟨⟨r, s.ahead.length⟩ :: a.calls, s.ahead, a.failed⟩
  | ⟨.returned _ ok, s⟩ => ⟨a.calls.tail, s.ahead, a.failed || !ok⟩
  | ⟨_, s⟩ => ⟨a.calls, s.ahead, a.failed⟩

def after (a : Account) (log : List Moment) : Account := log.foldl next a

/-- What may happen. -/
def Allows (a : Account) (m : Moment) : Prop :=
  m.state.ahead <:+ a.ahead ∧
    match m.event with
    | .called r => a.failed = false ∧
      ∀ c ∈ a.calls.head?, (OpenCall.mk r m.state.ahead.length).measure < c.measure
    | .returned r ok => ∃ c, a.calls.head? = some c ∧ c.routine = r ∧
      (ok = true → a.failed = false ∧ (r ≠ .members → m.state.ahead.length < c.found))
    | .linked => a.failed = false ∧ m.state.ahead.length < a.ahead.length
    | .entered | .left | .unlinked _ => True

/-- One thing happens after the other, each as it may. -/
def Lawful (a : Account) : List Moment → Prop
  | [] => True
  | m :: log => a.Allows m ∧ (a.next m).Lawful log

/-- Each call has a smaller measure than those around it. -/
def Nested (a : Account) : Prop := a.calls.Pairwise fun inner outer => inner.measure < outer.measure

variable {a : Account} {m : Moment} {log log' : List Moment}

@[simp] theorem after_nil : a.after [] = a := rfl

@[simp] theorem after_cons : a.after (m :: log) = (a.next m).after log := rfl

@[simp] theorem after_append : a.after (log ++ log') = (a.after log).after log' := List.foldl_append

@[simp] theorem next_ahead : (a.next m).ahead = m.state.ahead := by
  obtain ⟨event, s⟩ := m
  cases event <;> rfl

/-- Levels are no matter of the account. -/
theorem allows_of_levels {e : Event} {s : ParserState} (he : e.ofLevels = true)
    (hs : s.ahead <:+ a.ahead) : a.Allows ⟨e, s⟩ := by
  refine ⟨hs, ?_⟩
  cases e with
  | entered | left | unlinked => trivial
  | _ => cases he

theorem next_of_levels {e : Event} {s : ParserState} (he : e.ofLevels = true) :
    a.next ⟨e, s⟩ = ⟨a.calls, s.ahead, a.failed⟩ := by
  cases e with
  | entered | left | unlinked => rfl
  | _ => cases he

@[simp] theorem lawful_append : a.Lawful (log ++ log') ↔ a.Lawful log ∧ (a.after log).Lawful log' := by
  induction log generalizing a with
  | nil => rw [List.nil_append, Lawful, true_and, after_nil]
  | cons m log ih => rw [List.cons_append, Lawful, Lawful, ih, after_cons, and_assoc]

/-! ### Tokens -/

theorem Lawful.ahead_after (h : a.Lawful log) : (a.after log).ahead <:+ a.ahead := by
  induction log generalizing a with
  | nil => exact List.suffix_refl _
  | cons m log ih =>
    have hlater := ih h.2
    rw [next_ahead] at hlater
    exact hlater.trans h.1.1

theorem Lawful.ahead_of_mem (h : a.Lawful log) (hm : m ∈ log) : m.state.ahead <:+ a.ahead := by
  obtain ⟨before, rest, rfl⟩ := List.append_of_mem hm
  obtain ⟨hbefore, hm, -⟩ := lawful_append.mp h
  exact hm.1.trans hbefore.ahead_after

/-- **Tokens are never given back.** -/
theorem Lawful.pairwise (h : a.Lawful log) :
    log.Pairwise fun earlier later => later.state.ahead <:+ earlier.state.ahead := by
  induction log generalizing a with
  | nil => exact List.Pairwise.nil
  | cons m log ih =>
    refine List.pairwise_cons.mpr ⟨fun later hlater => ?_, ih h.2⟩
    have hsuffix := Lawful.ahead_of_mem h.2 hlater
    rwa [next_ahead] at hsuffix

theorem Lawful.ahead_after_of_mem (h : a.Lawful log) (hm : m ∈ log) :
    (a.after log).ahead <:+ m.state.ahead := by
  obtain ⟨before, rest, rfl⟩ := List.append_of_mem hm
  obtain ⟨-, -, hrest⟩ := lawful_append.mp h
  have hsuffix := hrest.ahead_after
  rwa [next_ahead, ← after_cons, ← after_append] at hsuffix

/-! ### Errors -/

theorem failed_after (h : a.failed = true) : (a.after log).failed = true := by
  induction log generalizing a with
  | nil => exact h
  | cons m log ih =>
    refine ih ?_
    obtain ⟨event, s⟩ := m
    cases event with
    | returned r ok => simp only [next, h, Bool.true_or]
    | _ => exact h

/-- After an error nothing begins. -/
theorem Lawful.ends_of_failed (h : a.Lawful log) (hfailed : a.failed = true) (hm : m ∈ log) :
    m.event ≠ .linked ∧ ∀ r, m.event ≠ .called r := by
  obtain ⟨before, rest, rfl⟩ := List.append_of_mem hm
  obtain ⟨-, hallows, -⟩ := lawful_append.mp h
  have hstill : (a.after before).failed = true := failed_after hfailed
  obtain ⟨event, s⟩ := m
  constructor
  · rintro rfl
    exact Bool.false_ne_true (hallows.2.1.symm.trans hstill)
  · rintro r rfl
    exact Bool.false_ne_true (hallows.2.1.symm.trans hstill)

/-! ### Calls -/

/-- The active calls are those that the record says are active. -/
theorem map_routine_after :
    (a.after log).calls.map OpenCall.routine =
      log.foldl (fun calls m => m.event.update calls) (a.calls.map OpenCall.routine) := by
  induction log generalizing a with
  | nil => rfl
  | cons m log ih =>
    rw [after_cons, ih, List.foldl_cons]
    congr 1
    obtain ⟨event, s⟩ := m
    cases event with
    | returned r ok => exact List.map_tail
    | _ => rfl

theorem active_eq (src : Lexemes) (log : List Moment) :
    active log = ((start src).after log).calls.map OpenCall.routine :=
  (map_routine_after (a := start src)).symm

theorem length_active (src : Lexemes) (log : List Moment) :
    (active log).length = ((start src).after log).calls.length := by
  rw [active_eq src, List.length_map]

/-- A call that may be made has a smaller measure than all that are active. -/
theorem Nested.measure_lt {r : Routine} {s : ParserState} (ha : a.Nested) (h : a.Allows ⟨.called r, s⟩)
    {c : OpenCall} (hc : c ∈ a.calls) : (OpenCall.mk r s.ahead.length).measure < c.measure := by
  obtain ⟨-, -, hinner⟩ := h
  unfold Nested at ha
  cases hcalls : a.calls with
  | nil =>
    rw [hcalls] at hc
    exact absurd hc List.not_mem_nil
  | cons inner calls =>
    rw [hcalls] at ha hc hinner
    have hlt := hinner inner rfl
    rcases List.mem_cons.mp hc with rfl | hc
    · exact hlt
    · exact hlt.trans ((List.pairwise_cons.mp ha).1 c hc)

theorem Nested.next (ha : a.Nested) (h : a.Allows m) : (a.next m).Nested := by
  obtain ⟨event, s⟩ := m
  cases event with
  | called r => exact List.pairwise_cons.mpr ⟨fun c hc => ha.measure_lt h hc, ha⟩
  | returned r ok => exact List.Pairwise.tail ha
  | _ => exact ha

/-- **The active calls are in order.** -/
theorem Lawful.nested (h : a.Lawful log) (ha : a.Nested) : (a.after log).Nested := by
  induction log generalizing a with
  | nil => exact ha
  | cons m log ih => exact ih h.2 (ha.next h.1)

/-- Calls stay active with all that they found, as long as no more than the calls inside them return. -/
theorem calls_suffix_after {calls : List OpenCall} (ha : calls <:+ a.calls)
    (hstay : ∀ first, first <+: log → calls.length ≤ (a.after first).calls.length) :
    calls <:+ (a.after log).calls := by
  -- what returns was in front of the calls, since there are as many as before
  induction log generalizing a with
  | nil => exact ha
  | cons m log ih =>
    refine ih ?_ fun first hfirst => hstay (m :: first) ((List.prefix_cons_inj m).mpr hfirst)
    have hlength := hstay [m] ⟨log, rfl⟩
    rw [after_cons, after_nil] at hlength
    obtain ⟨event, s⟩ := m
    cases event with
    | called r => exact ha.trans (List.suffix_cons _ _)
    | returned r ok =>
      exact List.suffix_of_suffix_length_le ha (List.tail_suffix _) hlength
    | _ => exact ha

/-- A call that has returned, and not with an error, has consumed something. -/
theorem Lawful.length_lt_of_returned {inner calls : List OpenCall} {c : OpenCall} (h : a.Lawful log)
    (ha : a.calls = inner ++ c :: calls) (hreturned : (a.after log).calls.length ≤ calls.length)
    (hfailed : (a.after log).failed = false) (hc : c.routine ≠ .members) :
    (a.after log).ahead.length < c.found := by
  -- the calls inside come and go in front of `c`, until it is the first one and returns
  induction log generalizing a inner with
  | nil =>
    rw [after_nil, ha, List.length_append, List.length_cons] at hreturned
    omega
  | cons m log ih =>
    obtain ⟨hallows, hlog⟩ := h
    rw [after_cons] at hreturned hfailed ⊢
    have hlater : ∀ inner : List OpenCall, (a.next m).calls = inner ++ c :: calls →
        ((a.next m).after log).ahead.length < c.found :=
      fun inner hinner => ih hlog hinner hreturned hfailed
    have hahead := hlog.ahead_after.length_le
    rw [next_ahead] at hahead
    obtain ⟨event, s⟩ := m
    cases event with
    | called r => exact hlater (⟨r, s.ahead.length⟩ :: inner) (congrArg (_ :: ·) ha)
    | returned r ok =>
      cases inner with
      | nil =>
        -- this is the return of the call itself
        obtain ⟨-, c', hhead, hroutine, hok⟩ := hallows
        rw [ha] at hhead
        obtain rfl : c = c' := Option.some.inj hhead
        cases ok with
        | false =>
          have hstill : (a.next ⟨.returned r false, s⟩).failed = true := Bool.or_true _
          rw [failed_after hstill] at hfailed
          cases hfailed
        | true => exact Nat.lt_of_le_of_lt hahead ((hok rfl).2 (hroutine ▸ hc))
      | cons call inner => exact hlater inner (congrArg List.tail ha)
    | entered | left | linked | unlinked => exact hlater inner ha

end Account

/-! ### Whole records -/

/-- The calls that are active before stay active. -/
def StayActive (before during : List Moment) : Prop :=
  ∀ first, first <+: during → active before <:+ active (before ++ first)

section Whole

open Account

variable {src : Lexemes} {before during after rest : List Moment} {r r' : Routine}
  {s s' : ParserState}

/-- A link finds fewer tokens than all that was before it. -/
theorem length_lt_of_linked (h : (start src).Lawful (before ++ ⟨.linked, s⟩ :: after))
    {m : Moment} (hm : m ∈ before) : s.ahead.length < m.state.ahead.length := by
  obtain ⟨hbefore, ⟨-, -, hlt⟩, -⟩ := lawful_append.mp h
  exact Nat.lt_of_lt_of_le hlt (hbefore.ahead_after_of_mem hm).length_le

theorem active_concat_called : active (before ++ [⟨.called r, s⟩]) = r :: active before := by
  rw [active, List.foldl_append]
  rfl

/-- Of calls that stay active it is still known what they found. -/
theorem calls_suffix_of_stayActive (hstay : StayActive (before ++ [⟨.called r, s⟩]) during) :
    ⟨r, s.ahead.length⟩ :: ((start src).after before).calls <:+
      ((start src).after (before ++ ⟨.called r, s⟩ :: during)).calls := by
  rw [after_append, after_cons]
  refine calls_suffix_after (List.suffix_refl _) fun first hfirst => ?_
  have hlength := (hstay first hfirst).length_le
  rwa [List.append_assoc, length_active src, length_active src, after_append, after_append] at hlength

/-- **No call comes back to itself for nothing.**  A call inside another finds fewer tokens, or as many
and is nearer to an operand. -/
theorem measure_lt_of_stayActive
    (h : (start src).Lawful (before ++ ⟨.called r, s⟩ :: (during ++ ⟨.called r', s'⟩ :: after)))
    (hstay : StayActive (before ++ [⟨.called r, s⟩]) during) :
    toLex (s'.ahead.length, r'.toPrimary) < toLex (s.ahead.length, r.toPrimary) := by
  rw [← List.cons_append, ← List.append_assoc] at h
  obtain ⟨hbefore, hcalled, -⟩ := lawful_append.mp h
  have hmem : ⟨r, s.ahead.length⟩ ∈ ((start src).after (before ++ ⟨.called r, s⟩ :: during)).calls :=
    (calls_suffix_of_stayActive hstay).subset List.mem_cons_self
  exact (hbefore.nested List.Pairwise.nil).measure_lt hcalled hmem

/-- A call that returns with a result has consumed something. -/
theorem length_lt_of_returned_ok
    (h : (start src).Lawful (before ++ ⟨.called r, s⟩ :: (during ++ ⟨.returned r true, s'⟩ :: rest)))
    (hstay : StayActive (before ++ [⟨.called r, s⟩]) during)
    (hactive : active (before ++ ⟨.called r, s⟩ :: during) = r :: active before) (hr : r ≠ .members) :
    s'.ahead.length < s.ahead.length := by
  rw [← List.cons_append, ← List.append_assoc] at h
  obtain ⟨-, ⟨-, c, hhead, -, hok⟩, -⟩ := lawful_append.mp h
  -- no other calls are active than when it was called, so it is the one that returns
  have hlength := congrArg List.length hactive
  rw [length_active src, List.length_cons, length_active src, ← List.length_cons] at hlength
  have hcalls := (calls_suffix_of_stayActive hstay).eq_of_length hlength.symm
  rw [← hcalls] at hhead
  obtain rfl := Option.some.inj hhead
  exact (hok rfl).2 hr

/-- Where a call has returned and something is called again, the first call has consumed something. -/
theorem length_lt_of_called_again
    (h : (start src).Lawful (before ++ ⟨.called r, s⟩ :: (during ++ ⟨.called r', s'⟩ :: after)))
    (hactive : active (before ++ ⟨.called r, s⟩ :: during) = active before) (hr : r ≠ .members) :
    s'.ahead.length < s.ahead.length := by
  have hlength := congrArg List.length hactive
  rw [length_active src, length_active src, after_append] at hlength
  obtain ⟨-, -, hlog⟩ := lawful_append.mp h
  obtain ⟨hduring, ⟨hsuffix, hunfailed, -⟩, -⟩ := lawful_append.mp hlog
  have hcalled : (((start src).after before).next ⟨.called r, s⟩).calls =
      [] ++ ⟨r, s.ahead.length⟩ :: ((start src).after before).calls := rfl
  exact Nat.lt_of_le_of_lt hsuffix.length_le
    (hduring.length_lt_of_returned hcalled (Nat.le_of_eq hlength) hunfailed hr)

/-- After a call has returned with an error nothing begins. -/
theorem ends_of_returned_error
    (h : (start src).Lawful (before ++ ⟨.returned r false, s⟩ :: rest)) {m : Moment} (hm : m ∈ rest) :
    m.event ≠ .linked ∧ ∀ r', m.event ≠ .called r' := by
  obtain ⟨-, -, hrest⟩ := lawful_append.mp h
  exact hrest.ends_of_failed (Bool.or_true _) hm

end Whole

end Levels
end ExprLang
