import ExprLang.Json.Record

/-!
# Configuration of the cache

How many compiled expressions are kept, and when the index is cleaned up.

## Main definitions

* `CacheConfig` — the configuration, with `CacheConfig.uncached` and `CacheConfig.small` beside the
  default one.
* `CacheConfig.limit`, `CacheConfig.threshold` — what it says, as natural numbers.
* `CacheConfig.Fits` — whether there is room for what is to be kept.
* `CacheConfig.warnings` — what speaks against a configuration.
* `CacheConfig.ofJson?`, `CacheConfig.toJson` — the file form.

## References

`SPEC_FULL.md`, 10.4; the reference's `CacheConfig` and `EvaluatorConfig`, with `validate`.
-/

namespace ExprLang

/-- The configuration of a cache. -/
structure CacheConfig where
  /-- Whether anything is cached at all. -/
  enabled : Bool
  /-- How many of the recently used expressions the cache itself keeps; all of them without a
  number. -/
  retainedEntries : Option UInt64
  /-- The size of the index above which it is swept. -/
  sweepThreshold : UInt64
  deriving DecidableEq, Repr

namespace CacheConfig

def default : CacheConfig := ⟨true, some 1024, 4096⟩

instance : Inhabited CacheConfig := ⟨default⟩

/-- Nothing is cached. -/
def uncached : CacheConfig := { default with enabled := false }

/-- A cache so small that a few expressions fill it. -/
def small : CacheConfig := { default with retainedEntries := some 8, sweepThreshold := 16 }

/-- How many of the recently used expressions are kept, if not all of them. -/
def limit (c : CacheConfig) : Option Nat := c.retainedEntries.map UInt64.toNat

/-- The size of the index above which it is swept. -/
def threshold (c : CacheConfig) : Nat := c.sweepThreshold.toNat

/-- There is room for as many expressions as are to be kept.  The room for a given number of them is
set aside at once; without a number it grows with what there is. -/
def Fits (c : CacheConfig) (room : Nat) : Prop := ∀ n ∈ c.limit, n ≤ room

instance (c : CacheConfig) (room : Nat) : Decidable (c.Fits room) :=
  inferInstanceAs (Decidable (∀ n ∈ c.limit, n ≤ room))

/-- What speaks against a configuration; of a cache that is not used nothing does. -/
def warnings (c : CacheConfig) : List String :=
  if !c.enabled then []
  else
    (match c.retainedEntries with
      | some 0 => ["retained_entries is 0 - entries are recompiled as soon as callers drop them"]
      | some n =>
        if 100000 < n then
          ["retained_entries is very high (>100000) - may consume excessive memory"]
        else []
      | none => ["retained_entries is unbounded - every compiled expression stays in memory"]) ++
    if c.sweepThreshold = 0 then
      ["sweep_threshold is 0 - the index is swept on every insert"]
    else []

/-! ### The file form -/

/-- The section of a file that describes the cache. -/
def ofDraft? (d : Json.Draft) : Option CacheConfig := do
  let fields ← d.fields? ["enabled", "retained_entries", "sweep_threshold"]
  return {
    enabled := ← Json.Draft.field? fields "enabled" default.enabled Json.Draft.boolean?
    retainedEntries :=
      ← Json.Draft.field? fields "retained_entries" default.retainedEntries
        (Json.Draft.orNull? Json.Draft.count?)
    sweepThreshold :=
      ← Json.Draft.field? fields "sweep_threshold" default.sweepThreshold Json.Draft.count? }

/-- The configuration that a file describes, in which what is not said stays at its default.  The
parts of the file that are passed over may be nested to any depth. -/
def ofJson? (text : String) : Option CacheConfig := do
  let fields ← (← Json.draft? (text.length + 2) text).fields? ["cache"]
  Json.Draft.field? fields "cache" default ofDraft?

/-- The file form of a configuration. -/
def toJson (c : CacheConfig) : Json :=
  .object [("cache", .object [
    ("enabled", .boolean c.enabled),
    ("retained_entries", match c.retainedEntries with
      | some n => .number (.whole n.toNat)
      | none => .null),
    ("sweep_threshold", .number (.whole c.threshold))])]

end CacheConfig
end ExprLang
