import ExprLang.Registry

/-!
# Contexts

What an expression can refer to: bindings under names of their own, and behind them, if there is
one, a registry of components shared between contexts.

## Main definitions

* `Context` — bindings and a registry.
* `Context.binding?`, `component?`, `lookup?` — the three ways a name can be looked up.

## References

`SPEC_FULL.md`, 3, 4.2 and 10.1; the reference's `BindingContext`.
-/

namespace ExprLang

/-- The names that an expression is evaluated under. -/
structure Context where
  bindings : Entries Value
  registry : Option Registry

namespace Context

/-- The context without bindings and without a registry. -/
def empty : Context := ⟨[], none⟩

instance : Inhabited Context := ⟨empty⟩

/-- The context of name and value pairs, of which later ones replace earlier ones. -/
def ofPairs (pairs : List (String × Value)) : Context := ⟨Entries.ofPairs pairs, none⟩

/-- Adds a binding or replaces one. -/
def withBinding (c : Context) (name : String) (value : Value) : Context :=
  { c with bindings := c.bindings.insert name value }

/-- Attaches a registry in place of any other. -/
def withRegistry (c : Context) (r : Registry) : Context := { c with registry := some r }

/-- Attaches a registry, if there is one to attach and none attached. -/
def orRegistry (c : Context) (r : Option Registry) : Context :=
  { c with registry := c.registry.or r }

/-- The binding of a name. -/
def binding? (c : Context) (name : String) : Option Value := c.bindings.get? name

/-- The component under a name. -/
def component? (c : Context) (name : String) : Option Value :=
  c.registry.bind fun r => r.component? name

/-- The binding of a name, or else the component under it. -/
def lookup? (c : Context) (name : String) : Option Value := (c.binding? name).or (c.component? name)

theorem lookup?_of_binding? {c : Context} {name : String} {v : Value}
    (h : c.binding? name = some v) : c.lookup? name = some v := by simp [lookup?, h]

theorem lookup?_of_binding?_eq_none {c : Context} {name : String} (h : c.binding? name = none) :
    c.lookup? name = c.component? name := by simp [lookup?, h]

/-- A new binding is seen under its own name and under no other. -/
theorem binding?_withBinding (c : Context) (name : String) (v : Value) (other : String) :
    (c.withBinding name v).binding? other = if name = other then some v else c.binding? other :=
  Entries.get?_insert c.bindings name v other

@[simp] theorem component?_withBinding (c : Context) (name : String) (v : Value) (other : String) :
    (c.withBinding name v).component? other = c.component? other := rfl

@[simp] theorem orRegistry_some (c : Context) (r : Registry) (s : Option Registry)
    (h : c.registry = some r) : c.orRegistry s = c := by
  cases c
  simp_all [orRegistry]

@[simp] theorem orRegistry_none (c : Context) : c.orRegistry none = c := by
  cases c
  simp [orRegistry]

end Context
end ExprLang
