import ExprLang.Cache

/-!
# Runs of a cache

Everything that can happen to a cache, one action after the other.

## Main definitions

* `Cache.Action`, `Cache.perform` — the actions and what they do.
* `Cache.run` — the state after a list of actions.

## References

`SPEC_FULL.md`, 8 and 10.3; calls of the reference's `ExpressionCache` one after the other.
-/

namespace ExprLang
namespace Cache

/-- What can happen to a cache.  An instance that a request answers is held on to if a holder is
named. -/
inductive Action
  | compile (text : String) (holder : Option String)
  | get (text : String) (holder : Option String)
  | release (holder : String)
  | sweep
  | clear
  deriving DecidableEq, Repr

/-- What an action answers. -/
inductive Reply
  /-- An instance, and those who held it already. -/
  | found (i : Instance) (sharedWith : List String)
  | failed (e : ParseError)
  /-- There is no living instance. -/
  | absent
  | done
  deriving DecidableEq, Repr

/-- Answers an instance, which goes to the holder if one is named. -/
def handOut (c : Cache) (i : Instance) (holder : Option String) : Reply × Cache :=
  (.found i (c.holdersOf i), c.give i holder)

/-- Does what an action says. -/
def perform (c : Cache) : Action → Reply × Cache
  | .compile text holder =>
    match c.compile text with
    | (.ok i, c) => c.handOut i holder
    | (.error e, c) => (.failed e, c)
  | .get text holder =>
    match c.get text with
    | (some i, c) => c.handOut i holder
    | (none, c) => (.absent, c)
  | .release holder => (.done, c.release holder)
  | .sweep => (.done, c.sweep)
  | .clear => (.done, c.clear)

/-- The state after a list of actions. -/
def run (c : Cache) (actions : List Action) : Cache := actions.foldl (fun c a => (c.perform a).2) c

end Cache
end ExprLang
