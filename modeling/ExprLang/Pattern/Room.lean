import ExprLang.Number.Power
import Std.Data.HashMap
import ExprLang.Pattern.Build

/-!
# The room a pattern takes

A pattern is only accepted if the machine that would run it stays within ten mebibytes.  The machine
is not built here; what is told is how much room it takes.  It is a graph of states: 32 bytes for each,
and besides 4 bytes for each way that a fork can take and 8 for each range of bytes that one state
tells apart.  There is a machine that reads texts forwards, and one that reads them backwards and
ignores groups; both have to fit.

Sets of characters are what takes most room.  Their states share what they can through a table with
a fixed number of slots: what comes to a slot that is taken displaces what was there, and so the room
for a set depends on the numbers of the states.

## Main definitions

* `Room` — how much is taken so far.
* `Pattern.place` — the room after a pattern has been given its own.
* `Pattern.fits` — whether a pattern stays within the limit.

## References

The limit on size that an expression is held to where the reference's `full_match_regex` compiles
it.
-/

namespace ExprLang

open scoped CorePower

/-- The room taken by the part of a machine that is there already. -/
structure Room where
  states : Nat
  /-- The bytes that states take besides their own. -/
  extra : Nat
  /-- Whether the part placed last ends in a fork.  Whatever follows is one more way for it. -/
  openFork : Bool

namespace Room

def bytes (r : Room) : Nat := 32 * r.states + r.extra

/-- The most bytes that a machine may take. -/
def limit : Nat := 10 * 2 ^ (20 : Nat)

/-- The bytes for joining the part placed last to another. -/
def joint (r : Room) : Nat := if r.openFork then 4 else 0

/-- Takes room for some states and for the bytes besides, unless there is not so much. -/
def take (states extra : Nat) (openFork : Bool) (r : Room) : Option Room :=
  let r := ⟨r.states + states, r.extra + extra, openFork⟩
  if r.bytes ≤ limit then some r else none

/-- Places the same part `n` times, each joined to the one before it. -/
def copies (place : Room → Option Room) : Nat → Room → Option Room
  | 0, r => some r
  | n + 1, r =>
    match place { r with extra := r.extra + r.joint } with
    | none => none
    | some r => copies place n r

/-! ### Shared states -/

/-- A hash of numbers, by the rule of Fowler, Noll and Vo. -/
def hashNumbers (ns : List Nat) : UInt64 :=
  ns.foldl (fun h n => (h ^^^ n.toUInt64) * 1099511628211) 14695981039346656037

/-- The numbers of states in a table by what they do, with the room taken. -/
structure Sharing where
  room : Room
  slots : Std.HashMap UInt64 (List Nat × Nat)

/-- The number of the state that does what `key` tells, a new one if none is in the table. -/
def Sharing.state (slotCount : UInt64) (extra : Nat) (key : List Nat) (s : Sharing) :
    Nat × Sharing :=
  let slot := hashNumbers key % slotCount
  match s.slots[slot]?.bind fun entry => if entry.1 = key then some entry.2 else none with
  | some state => (state, s)
  | none =>
    let ⟨⟨states, bytes, openFork⟩, slots⟩ := s
    (states, ⟨⟨states + 1, bytes + extra, openFork⟩, slots.insert slot (key, states)⟩)

/-- The state that reads one of the given sequences of ranges of bytes forwards and comes to `target`
then: it tells apart the first ranges, and goes on to a state for what follows each of them. -/
def forwardState (target : Nat) : (bytesLeft : Nat) → List ByteRanges → Sharing → Nat × Sharing
  | 0, _, s => (target, s)
  | n + 1, seqs, s =>
    let groups := seqs.splitBy fun a b => a.head? == b.head?
    let (key, s) := groups.foldl (fun (key, s) group =>
      match group with
      | (r :: rest) :: _ =>
        let (next, s) :=
          if rest.isEmpty then (target, s) else forwardState target n (group.map List.tail) s
        (next :: r.2 :: r.1 :: key, s)
      | _ => (key, s)) ([], s)
    s.state 10000 (8 * groups.length) key.reverse

/-- The room after a state at the end of a set and those that read it forwards. -/
def addForwards (seqs : List ByteRanges) (r : Room) : Room :=
  (forwardState r.states 4 seqs ⟨{ r with states := r.states + 1 }, {}⟩).2.room

/-- The room after a fork in front of a set, a state at its end, and those that read it backwards: a
way of the fork for each sequence, with a state for each of its bytes. -/
def addBackwards (seqs : List ByteRanges) (r : Room) : Room :=
  let start : Sharing := ⟨{ r with states := r.states + 2 }, {}⟩
  (seqs.foldl (fun s seq =>
    let s := (seq.foldl (fun (next, s) range =>
      s.state 1000 0 [next, range.1, range.2]) (r.states + 1, s)).2
    let ⟨⟨states, bytes, openFork⟩, slots⟩ := s
    ⟨⟨states, bytes + 4, openFork⟩, slots⟩) start).room

/-- Takes room for a set of characters. -/
def takeSet (backwards : Bool) (s : CharSet) (r : Room) : Option Room :=
  if s.isAscii then r.take 2 (8 * s.length) false
  else
    ((if backwards then addBackwards s.encodings r else addForwards s.encodings r)).take 0 0 false

/-! ### Shared beginnings of literals -/

/-- Cuts a list of words at the empty ones, but not at several of them in front. -/
def cutAtEmpty (words : List (List Nat)) : List (List (List Nat)) :=
  let front := words.takeWhile List.isEmpty
  let rest := (words.drop front.length).splitOnP List.isEmpty
  if front.isEmpty then rest else [] :: rest

/-- The states of a tree of words below its root, and the bytes they take besides: where a word ends
or another begins with a byte of its own, the tree forks. -/
def treeOfWords : (fuel : Nat) → List (List Nat) → Nat × Nat
  | 0, _ => (0, 0)
  | fuel + 1, words =>
    if words.all List.isEmpty then (0, 0)
    else
      let chunks := cutAtEmpty words
      chunks.foldl (fun (states, extra) chunk =>
        let firsts := (chunk.filterMap List.head?).eraseDups
        let below := firsts.map fun b =>
          treeOfWords fuel ((chunk.filter fun w => w.head? == some b).map List.tail)
        (below.foldl (fun n p => n + p.1) states + (if firsts.isEmpty then 0 else 1),
          below.foldl (fun n p => n + p.2) extra + (if firsts.isEmpty then 0 else 4) +
            (if firsts.length < 2 then 0 else 8 * firsts.length)))
        (1, 4 * (chunks.length - 1))

/-- Takes room for one of several literals. -/
def takeLiterals (backwards : Bool) (words : List (List Char)) (r : Room) : Option Room :=
  let words := words.map fun w => w.flatMap fun c => utf8Bytes c.toNat
  let words := if backwards then words.map List.reverse else words
  let (states, extra) := treeOfWords ((words.map List.length).foldl max 0 + 1) words
  r.take (states + 1) extra false

end Room

namespace Pattern

/-! ### Whole patterns -/

/-- Where a pattern stands among alternatives. -/
inductive Standing
  | alone
  | first
  | second
  | later

/-- Takes room for joining an alternative to the others.  The fork in front of all of them and the
state behind them come with the second. -/
def Standing.close (standing : Standing) (r : Room) : Option Room :=
  match standing with
  | alone => some r
  | first => r.take 0 r.joint false
  | second => r.take 2 (8 + r.joint) false
  | later => r.take 0 (4 + r.joint) false

/-- The characters of a literal. -/
def literal? : Pattern → Option (List Char)
  | literal cs => some cs
  | _ => none

/-- The room after a pattern has been given its own, in the order in which its states are numbered;
none if the limit is passed. -/
def place (backwards : Bool) : Standing → Pattern → Room → Option Room
  | standing, either p q, r =>
    match standing, (either p q).branches.mapM literal? with
    | .alone, some words => r.takeLiterals backwards words
    | .alone, none => do place backwards .second q (← place backwards .first p r)
    | .first, _ => do place backwards .second q (← place backwards .first p r)
    | .second, _ => do place backwards .later q (← place backwards .second p r)
    | .later, _ => do place backwards .later q (← place backwards .later p r)
  | standing, empty, r => do standing.close (← r.take 1 0 false)
  | standing, literal cs, r => do
    standing.close (← r.take (cs.foldl (fun n c => n + (utf8Bytes c.toNat).length) 0) 0 false)
  | standing, oneOf s, r => do standing.close (← r.takeSet backwards s)
  | standing, anchor _, r => do standing.close (← r.take 1 0 false)
  | standing, group _ p, r => do
    if backwards then standing.close (← place backwards .alone p r)
    else
      let r ← r.take 1 0 false
      let r ← place backwards .alone p r
      standing.close (← r.take 1 r.joint false)
  | standing, sequence p q, r => do
    if backwards then
      let r ← place backwards .alone q r
      standing.close (← place backwards .alone p { r with extra := r.extra + r.joint })
    else
      let r ← place backwards .alone p r
      standing.close (← place backwards .alone q { r with extra := r.extra + r.joint })
  | standing, repeated p least most _, r => do
    match least, most with
    | 0, some 1 =>
      let r ← r.take 1 0 false
      let r ← place backwards .alone p r
      standing.close (← r.take 1 (8 + r.joint) false)
    | 0, none =>
      if p.minWidth.any (0 < ·) then
        let r ← r.take 1 0 false
        let r ← place backwards .alone p r
        standing.close (← r.take 0 (4 + r.joint) true)
      else
        let r ← place backwards .alone p r
        standing.close (← r.take 3 (16 + r.joint) false)
    | least + 1, none =>
      let r ← Room.copies (place backwards .alone p) (least + 1) { r with openFork := false }
      standing.close (← r.take 1 (4 + r.joint) true)
    | least, some most =>
      let r ← if least = 0 then r.take 1 0 false
        else Room.copies (place backwards .alone p) least { r with openFork := false }
      if most = least then standing.close r
      else
        let before := r.joint
        let r ← r.take 1 before false
        let step (r : Room) : Option Room := do
          let r ← r.take 1 8 false
          place backwards .alone p r
        let r ← Room.copies step (most - least) r
        standing.close (← r.take 0 r.joint false)

/-- Whether the machine for a pattern stays within the limit.  In front of a pattern whose matches may
begin anywhere there is a loop over all bytes. -/
def fitsOneWay (backwards : Bool) (p : Pattern) : Bool :=
  let bound := if backwards then p.trailsWith .textEnd else p.leadsWith .textStart
  let start : Option Room :=
    if bound then Room.take 1 0 false ⟨0, 0, false⟩ else Room.take 3 16 false ⟨0, 0, false⟩
  let ending := start.bind fun r =>
    if backwards then (place backwards .alone p r).bind fun r => r.take 1 r.joint false
    else (place backwards .alone (group 0 p) r).bind fun r => r.take 1 0 false
  ending.isSome

/-- Whether both machines for a pattern stay within the limit. -/
def fits (p : Pattern) : Bool := p.fitsOneWay false && p.fitsOneWay true

end Pattern
end ExprLang
