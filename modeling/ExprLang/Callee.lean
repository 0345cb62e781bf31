/-!
# Methods that are called

Which method a call goes to, and the names of its parameters where they are known.

## Main definitions

* `Callee`, `Callee.signature` — a method, and the text that tells it from others.

## References

`SPEC_FULL.md`, 10.5; the reference's `MethodDescriptor`, with `signature`.
-/

namespace ExprLang

/-- A method that can be called. -/
structure Callee where
  owner : String
  name : String
  /-- The number of parameters it is declared with. -/
  arity : Nat
  /-- The names of the parameters, where they are declared; they need not be as many. -/
  declaredNames : Option (List String)
  deriving DecidableEq, Repr

namespace Callee

/-- The text of a method. -/
def text (c : Callee) : String := c.owner ++ "::" ++ c.name

/-- The text by which methods of one name are told apart. -/
def signature (c : Callee) : String := c.text ++ "/" ++ String.ofList (Nat.toDigits 10 c.arity)

end Callee
end ExprLang
