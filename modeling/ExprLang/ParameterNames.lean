import ExprLang.Callee
import ExprLang.Entries

/-!
# Names of parameters

Where the names of a method's parameters come from: from its own declaration, from a table, from any
function, or from several such sources, of which the first one that knows names counts.

## Main definitions

* `ParameterTable`, `ParameterTable.register` — names by signature.
* `NameSource`, `NameSource.names?` — the sources, and what they know of a method.
* `NameSource.leaves` — the single sources that a source consists of.

## References

`SPEC_FULL.md`, 10.5; the reference's `ParameterNameDiscoverer`, `DeclaredParameterNames`,
`ParameterNameTable` and `DiscovererChain`.
-/

namespace ExprLang

/-- Names by the signatures of methods. -/
structure ParameterTable where
  entries : Entries (List String)

namespace ParameterTable

def empty : ParameterTable := ⟨[]⟩

/-- Enters the names of a method, whose number of parameters is the number of names. -/
def register (t : ParameterTable) (owner method : String) (names : List String) : ParameterTable :=
  ⟨t.entries.insert (Callee.signature ⟨owner, method, names.length, none⟩) names⟩

/-- The names entered for a method's signature. -/
def names? (t : ParameterTable) (callee : Callee) : Option (List String) := t.entries.get? callee.signature

/-- The number of signatures with names. -/
def size (t : ParameterTable) : Nat := t.entries.length

end ParameterTable

/-- A source of names. -/
inductive NameSource
  /-- The names a method declares itself. -/
  | declared
  | table (t : ParameterTable)
  | function (f : Callee → Option (List String))
  /-- Several sources, one after the other. -/
  | chain (sources : List NameSource)

namespace NameSource

mutual

/-- The names a source knows for a method. -/
def names? (callee : Callee) : NameSource → Option (List String)
  | declared => callee.declaredNames
  | table t => t.names? callee
  | function f => f callee
  | chain sources => firstNames? callee sources

/-- The names of the first source that knows any. -/
def firstNames? (callee : Callee) : List NameSource → Option (List String)
  | [] => none
  | s :: rest =>
    match s.names? callee with
    | some names => some names
    | none => firstNames? callee rest

end

mutual

/-- The single sources in the order in which they are asked. -/
def leaves : NameSource → List NameSource
  | chain sources => leavesOfAll sources
  | s => [s]

def leavesOfAll : List NameSource → List NameSource
  | [] => []
  | s :: rest => s.leaves ++ leavesOfAll rest

end

/-- The number of sources directly in a chain. -/
def size : NameSource → Nat
  | chain sources => sources.length
  | _ => 1

/-- The text that shows how long a chain is. -/
def inspect (s : NameSource) : String :=
  "DiscovererChain \x7b len: " ++ String.ofList (Nat.toDigits 10 s.size) ++ " \x7d"

end NameSource
end ExprLang
