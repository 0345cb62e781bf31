import ExprLang.Entries
import ExprLang.Number.Power

/-!
# The entries used last

Entries under names in the order of their last use, the latest first.  There may be a limit on their
number: then the entry used least recently makes room for a new one.

## Main definitions

* `Recent.promote?` — an entry that is there is used again.
* `Recent.push` — an entry is put in, whether or not there is one under its name.
* `Recent.add`, `Recent.refresh` — an entry that was made anew or used again, with a count of the
  entries that had to go.
* `Recent.room` — the most entries that room can be set aside for.

## References

`SPEC_FULL.md`, 10.3; the set of retained entries that the reference's `touch` and `retain` work on.
-/

namespace ExprLang

open scoped CorePower
namespace Recent

variable {α : Type}

/-- Makes the entry under a name the latest one, if there is one.  Its value stays as it is. -/
def promote? (m : Entries α) (name : String) : Option (Entries α) :=
  (m.get? name).map fun value => (name, value) :: m.erase name

/-- Puts a value under a name as the latest entry.  The answer is the entry that goes for it: the old
one under the name, or else the last one if there are as many as there may be. -/
def push (limit : Option Nat) (m : Entries α) (name : String) (value : α) :
    Option (String × α) × Entries α :=
  match m.get? name with
  | some old => (some (name, old), (name, value) :: m.erase name)
  | none =>
    if limit = some m.length then (m.getLast?, (name, value) :: m.dropLast)
    else (none, (name, value) :: m)

/-- The entries after a use. -/
structure Use (α : Type) where
  entries : Entries α
  /-- How many entries went for one under another name. -/
  evictions : Nat

/-- Where there may be no entries at all, none is ever put in. -/
def unused (m : Entries α) : Use α := ⟨m, 0⟩

/-- Puts a new value under a name. -/
def add (limit : Option Nat) (m : Entries α) (name : String) (value : α) : Use α :=
  if limit = some 0 then unused m
  else
    let (gone, m) := push limit m name value
    ⟨m, if gone.any fun p => p.1 ≠ name then 1 else 0⟩

/-- Uses the value under a name, which is put in if there is none. -/
def refresh (limit : Option Nat) (m : Entries α) (name : String) (value : α) : Use α :=
  if limit = some 0 then unused m
  else
    match promote? m name with
    | some m => ⟨m, 0⟩
    | none => add limit m name value

/-- The most entries that room can be set aside for.  They are kept in a table whose size is a power of
two and an eighth of which stays free, and which takes up sixteen bytes for a place and one more to tell
whether it is taken; all of it has to be less than `2 ^ 63` bytes. -/
def room : Nat := 7 * 2 ^ (55 : Nat)

end Recent
end ExprLang
