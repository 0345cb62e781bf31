import ExprLang.Value

/-!
# Registries

Components are values under names that contexts share.  A registry answers for names; it can be the
entries of a table that is filled name by name.  A cell is installed with a registry at most once.

## Main definitions

* `Registry` — components by name.
* `Components` — a table of components that can change.
* `RegistryCell`, `RegistryCell.install` — the place for one registry.

## References

`SPEC_FULL.md`, 10.6; the reference's `ComponentRegistry`, `StaticComponentRegistry` and
`RegistryCell`.
-/

namespace ExprLang

/-- Components by name.  All that counts of a registry is what it answers. -/
structure Registry where
  component? : String → Option Value

namespace Registry

/-- The registry of given entries. -/
def ofEntries (entries : Entries Value) : Registry := ⟨entries.get?⟩

/-- Whether there is a component under a name. -/
def contains (r : Registry) (name : String) : Bool := (r.component? name).isSome

end Registry

/-! ### Tables of components -/

/-- Components in ascending order of their names. -/
structure Components where
  entries : Entries Value

namespace Components

def empty : Components := ⟨[]⟩

/-- The component under a name. -/
def component? (c : Components) (name : String) : Option Value := c.entries.get? name

def contains (c : Components) (name : String) : Bool := c.entries.contains name

/-- Puts a component under a name; answers the one that it takes the place of. -/
def register (c : Components) (name : String) (value : Value) : Option Value × Components :=
  (c.component? name, ⟨c.entries.insertSorted name value⟩)

/-- Takes the component under a name out and answers it. -/
def unregister (c : Components) (name : String) : Option Value × Components :=
  (c.component? name, ⟨c.entries.erase name⟩)

def names (c : Components) : List String := c.entries.keys

/-- The registry of the components as they are now. -/
def registry (c : Components) : Registry := .ofEntries c.entries

end Components

/-! ### Cells -/

/-- What can be wrong with an installation. -/
inductive RegistryError
  | alreadyRegistered
  deriving DecidableEq, Repr

def RegistryError.message : RegistryError → String
  | alreadyRegistered => "Component registry is already registered"

/-- The place for a registry, which is filled at most once. -/
structure RegistryCell where
  content : Option Registry

namespace RegistryCell

def empty : RegistryCell := ⟨none⟩

instance : Inhabited RegistryCell := ⟨empty⟩

def isSet (cell : RegistryCell) : Bool := cell.content.isSome

/-- Fills an empty cell; a filled one stays as it is. -/
def install (cell : RegistryCell) (r : Registry) : Except RegistryError Unit × RegistryCell :=
  match cell.content with
  | none => (.ok (), ⟨some r⟩)
  | some _ => (.error .alreadyRegistered, cell)

/-- The component under a name, once the cell is filled. -/
def component? (cell : RegistryCell) (name : String) : Option Value :=
  cell.content.bind fun r => r.component? name

/-- The text that shows whether a cell is filled. -/
def inspect (cell : RegistryCell) : String :=
  "RegistryCell \x7b is_set: " ++ (if cell.isSet then "true" else "false") ++ " \x7d"

/-- A filled cell keeps its registry whatever is installed. -/
theorem install_of_content {cell : RegistryCell} {r : Registry} (h : cell.content = some r)
    (s : Registry) : cell.install s = (.error .alreadyRegistered, cell) := by
  simp [install, h]

end RegistryCell
end ExprLang
