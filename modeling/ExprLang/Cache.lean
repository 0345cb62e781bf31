import ExprLang.Cache.Config
import ExprLang.Cache.Recent
import ExprLang.Compiled

/-!
# The cache of compiled expressions

The cache compiles a text once and then hands out the same instance for it, for as long as that
instance lives.  Its index knows every instance it has handed out, but does not keep any of them
alive: an instance lives while somebody outside holds it, or while it is among the recently used ones
that the cache retains.  An entry of the index whose instance has died counts for nothing, and a
sweep takes it out.

Texts that cannot be read are never remembered.

## Main definitions

* `Instance` — a compiled expression with an identity.
* `Cache`, `Cache.isAlive` — the state, and which instances live in it.
* `Cache.start`, `Cache.new` — the state before the first use, and a cache for which there is room.
* `Cache.compile`, `Cache.get` — the instance for a text, compiled if need be or not at all.
* `Cache.hold`, `Cache.release` — instances held outside.
* `Cache.sweep`, `Cache.clear` — taking out dead entries, or all of them.
* `CacheStats` — the counts.

## References

`SPEC_FULL.md`, 4.1 and 10.3; the reference's `ExpressionCache`, with `compile_or_get`, `get`,
`touch`, `retain`, `maybe_sweep`, `sweep`, `clear` and `stats`.
-/

namespace ExprLang

/-- A compiled expression with an identity: two instances are one if their numbers are. -/
structure Instance where
  id : Nat
  compiled : Compiled
  deriving DecidableEq, Repr

/-- Counts of what a cache has done and of what it holds. -/
structure CacheStats where
  /-- Requests for which nothing had to be compiled. -/
  hits : Nat
  /-- All other requests. -/
  misses : Nat
  /-- Instances pushed out of the retained ones by another one. -/
  evictions : Nat
  sweeps : Nat
  /-- Entries of the index, of the dead as of the living. -/
  entries : Nat
  retained : Nat
  deriving DecidableEq, Repr

namespace CacheStats

/-- The share of the hits in all requests, which is zero before the first one. -/
def hitRate (s : CacheStats) : Float :=
  if s.hits + s.misses = 0 then 0.0
  else Double.ofNat s.hits / Double.ofNat (s.hits + s.misses)

/-- The counts as one line of JSON. -/
def text (s : CacheStats) : String :=
  Json.compact (.object
    [("hits", .number (.whole s.hits)), ("misses", .number (.whole s.misses)),
     ("evictions", .number (.whole s.evictions)), ("sweeps", .number (.whole s.sweeps)),
     ("entries", .number (.whole s.entries)), ("retained", .number (.whole s.retained))])

end CacheStats

/-- The state of a cache. -/
structure Cache where
  config : CacheConfig
  /-- The instance handed out last for each text. -/
  index : Entries Instance
  /-- The recently used instances by their texts, the latest first. -/
  retained : Entries Instance
  /-- The instances held outside, each under the name of its holder, in the order in which they were
  taken. -/
  held : Entries Instance
  /-- The size of the index above which the next sweep is due. -/
  nextSweep : Nat
  /-- The identity of the next instance. -/
  nextId : Nat
  hits : Nat
  misses : Nat
  evictions : Nat
  sweeps : Nat

namespace Cache

/-- The cache of a configuration before its first use. -/
def start (config : CacheConfig) : Cache where
  config := config
  index := []
  retained := []
  held := []
  nextSweep := config.threshold
  nextId := 0
  hits := 0
  misses := 0
  evictions := 0
  sweeps := 0

instance : Inhabited Cache := ⟨start default⟩

/-- A new cache.  There is none if the entries that it is to retain are more than there is room for,
whether or not the cache is to be used. -/
def new (room : Nat) (config : CacheConfig) : Option Cache :=
  if config.Fits room then some (start config) else none

/-- The counts of the moment. -/
def stats (c : Cache) : CacheStats :=
  ⟨c.hits, c.misses, c.evictions, c.sweeps, c.index.length, c.retained.length⟩

/-! ### Life -/

/-- Whether an instance is among those under names. -/
def isAmong (i : Instance) (entries : Entries Instance) : Bool := entries.any fun p => p.2.id == i.id

/-- An instance lives while it is retained or held. -/
def isAlive (c : Cache) (i : Instance) : Bool := isAmong i c.retained || isAmong i c.held

/-- The living instance for a text. -/
def live? (c : Cache) (text : String) : Option Instance := (c.index.get? text).filter c.isAlive

/-! ### The retained instances -/

/-- The state after a use of the retained instances. -/
def retaining (c : Cache) (r : Recent.Use Instance) : Cache :=
  { c with retained := r.entries, evictions := c.evictions + r.evictions }

/-- The instance for a text was asked for again.  It may have lived on through a holder alone, and
then it is put back among the retained ones. -/
def touch (c : Cache) (text : String) (i : Instance) : Cache :=
  c.retaining (Recent.refresh c.config.limit c.retained text i)

/-- The instance for a text was made. -/
def retain (c : Cache) (text : String) (i : Instance) : Cache :=
  c.retaining (Recent.add c.config.limit c.retained text i)

/-! ### Sweeping -/

/-- Takes the dead entries out of the index, apart from that of an instance about to be handed
out.  The next sweep is not due before the index has doubled. -/
def sweepExcept (c : Cache) (fresh : Option Instance) : Cache :=
  let index := c.index.filter fun p => c.isAlive p.2 || fresh.any fun i => i.id == p.2.id
  { c with
    index := index
    sweeps := c.sweeps + 1
    nextSweep := max c.config.threshold (2 * index.length) }

/-- Takes the dead entries out of the index. -/
def sweep (c : Cache) : Cache := c.sweepExcept none

/-- Sweeps the index if that is due. -/
def sweepIfDue (c : Cache) (fresh : Instance) : Cache :=
  if c.nextSweep < c.index.length then c.sweepExcept (some fresh) else c

/-- Takes all entries out and lets go of all instances; the counts go on. -/
def clear (c : Cache) : Cache :=
  { c with index := [], retained := [], nextSweep := c.config.threshold }

/-! ### Requests -/

/-- Counts a request for which nothing had to be compiled. -/
def countHit (c : Cache) : Cache := { c with hits := c.hits + 1 }

/-- Counts any other request. -/
def countMiss (c : Cache) : Cache := { c with misses := c.misses + 1 }

/-- The living instance for a text, which becomes the latest one used. -/
def get (c : Cache) (text : String) : Option Instance × Cache :=
  match c.live? text with
  | some i => (some i, c.touch text i)
  | none => (none, c)

/-- Makes a new instance. -/
def create (c : Cache) (compiled : Compiled) : Instance × Cache :=
  (⟨c.nextId, compiled⟩, { c with nextId := c.nextId + 1 })

/-- Enters an instance for a text, unless there is a living one; the answer is the one that is there
in the end. -/
def enter (c : Cache) (text : String) (i : Instance) : Instance × Cache :=
  match c.live? text with
  | some existing => (existing, c)
  | none => (i, { c with index := c.index.insert text i })

/-- The instance for a text, which is compiled if there is no living one. -/
def compile (c : Cache) (text : String) : Except ParseError Instance × Cache :=
  if c.config.enabled then
    match c.get text with
    | (some i, c) => (.ok i, c.countHit)
    | (none, c) =>
      let c := c.countMiss
      match Compiled.ofText text with
      | .error e => (.error e, c)
      | .ok compiled =>
        let (i, c) := c.create compiled
        let (i, c) := c.enter text i
        (.ok i, (c.retain text i).sweepIfDue i)
  else
    let c := c.countMiss
    match Compiled.ofText text with
    | .error e => (.error e, c)
    | .ok compiled =>
      let (i, c) := c.create compiled
      (.ok i, c)

/-! ### Holders -/

/-- Lets a holder go of its instance. -/
def release (c : Cache) (holder : String) : Cache := { c with held := c.held.erase holder }

/-- Gives an instance to a holder, who lets go of any other. -/
def hold (c : Cache) (holder : String) (i : Instance) : Cache :=
  { c with held := c.held.erase holder ++ [(holder, i)] }

/-- Gives an instance to a holder if one is named. -/
def give (c : Cache) (i : Instance) : Option String → Cache
  | some holder => c.hold holder i
  | none => c

/-- Who holds an instance, in the order in which they came by it. -/
def holdersOf (c : Cache) (i : Instance) : List String :=
  (c.held.filter fun p => p.2.id == i.id).map Prod.fst

end Cache
end ExprLang
