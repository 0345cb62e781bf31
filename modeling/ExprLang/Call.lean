import ExprLang.ParameterNames
import ExprLang.Resolver

/-!
# Calls

A call that has been intercepted: the method it goes to and its arguments, as far as they are known.
Expressions about it are answered in the context that binds the names of the parameters to the
arguments.  A condition can guard that: only if it is true is there a resolver at all.

## Main definitions

* `Call`, `Call.context` — a call and the context of its arguments.
* `Call.resolver` — the resolver for a call.
* `Call.resolverIf` — the resolver for a call under a condition.

## References

`SPEC_FULL.md`, 4.2, 4.5 and 10.7; the reference's `CallEvent`, `from_invocation_with`, `from_call`
and `from_call_with_condition`.
-/

namespace ExprLang

/-- A call as far as it is known. -/
structure Call where
  callee : Option Callee
  arguments : Option (List Value)

namespace Call

/-- The names of the parameters with the arguments, where both are known and equally many. -/
def bindings? (call : Call) (source : NameSource) : Option (List (String × Value)) := do
  let callee ← call.callee
  let arguments ← call.arguments
  let names ← source.names? callee
  if names.length = arguments.length then some (names.zip arguments) else none

/-- The context that binds the parameters to the arguments, or the empty one.  Where parameters share
a name the last argument counts. -/
def context (call : Call) (source : NameSource) : Context :=
  match call.bindings? source with
  | some pairs => .ofPairs pairs
  | none => .empty

/-- The resolver for the context of a call. -/
def resolver (call : Call) (source : NameSource) (shared : Option Registry) : Resolver :=
  .new shared (call.context source)

/-- The resolver for a call, if the condition is true in its context.  A condition that is absent,
blank or without a truth value counts as false. -/
def resolverIf (call : Call) (source : NameSource) (shared : Option Registry)
    (condition : Option String) : Request (Option Resolver) := do
  let r := call.resolver source shared
  let isTrue ← (r.resolveOrDefault condition (pure false : Id Bool) : Cache → Id _)
  return if isTrue then some r else none

end Call
end ExprLang
