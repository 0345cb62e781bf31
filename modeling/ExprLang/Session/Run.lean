import ExprLang.Cache.Run
import ExprLang.Session

/-!
# Runs of a program

Everything that can happen in a program with a session, one action after the other.  The resolvers
that are made stay, and can be asked at any later time; they go by numbers, in the order in which they
were made.

## Main definitions

* `Program` — a session with the resolvers made so far.
* `Program.Action`, `Program.Reply`, `Program.perform` — the actions, and what they do and answer.
* `Program.run` — the program after a list of actions from its start.

## References

`SPEC_FULL.md`, 6 and 8; calls of the functions of `Session` one after the other.
-/

namespace ExprLang

/-- A program as it goes on. -/
structure Program where
  session : Session
  /-- The resolvers made so far, in their order. -/
  resolvers : List Resolver

namespace Program

/-- The start of a program. -/
def new : Program := ⟨.new, []⟩

/-- What can happen in a program. -/
inductive Action : Type 1
  | register (r : Registry)
  | component (name : String)
  | makeResolver (context : Context)
  | makeCallResolver (call : Call)
  | makeCallResolverIf (call : Call) (condition : Option String)
  | evaluate (α : Type) [Coercible α] (text : String) (context : Context)
  | evaluateCall (α : Type) [Coercible α] (text : String) (call : Call)
  | resolveOrDefault (α : Type) [Coercible α] (text : Option String) (context : Context) (default : α)
  /-- A resolver is asked for the value of a text. -/
  | ask (α : Type) [Coercible α] (number : Nat) (text : String)
  /-- A resolver is asked for the value of a text, or a default. -/
  | askOrDefault (α : Type) [Coercible α] (number : Nat) (text : Option String) (default : α)
  /-- The shared cache is used in any other way. -/
  | useCache (a : Cache.Action)

/-- What an action answers. -/
inductive Reply : Type 1
  | registered (result : Except RegistryError Unit)
  | component (value : Option Value)
  | made (number : Nat)
  /-- The condition was not true. -/
  | notMade
  | failed (e : RequestError)
  | answered {α : Type} (result : Except RequestError (Option α))
  | resolved {α : Type} (result : Except RequestError α)
  /-- There is no resolver of the number. -/
  | unknown
  | used (reply : Cache.Reply)

/-- Does something with the session and answers what comes of it. -/
def inSession {β : Type} (p : Program) (reply : β → Reply) (f : Session → β × Session) :
    Reply × Program :=
  let (b, session) := f p.session
  (reply b, { p with session := session })

/-- Keeps a resolver that was made. -/
def keep (p : Program) (r : Resolver) : Reply × Program :=
  (.made p.resolvers.length, { p with resolvers := p.resolvers ++ [r] })

/-- Does something with the resolver of a number. -/
def withResolver (p : Program) (number : Nat) (f : Resolver → Reply × Program) : Reply × Program :=
  match p.resolvers[number]? with
  | some r => f r
  | none => (.unknown, p)

/-- Does what an action says. -/
def perform (p : Program) : Action → Reply × Program
  | .register r => p.inSession .registered fun s => s.register r
  | .component name => (.component (p.session.component? name), p)
  | .makeResolver context => p.keep (p.session.resolver context)
  | .makeCallResolver call => p.keep (p.session.callResolver call)
  | .makeCallResolverIf call condition =>
    let (result, session) := p.session.callResolverIf call condition
    let p := { p with session := session }
    match result with
    | .ok (some r) => p.keep r
    | .ok none => (.notMade, p)
    | .error e => (.failed e, p)
  | @Action.evaluate α _ text context =>
    p.inSession .answered fun s => s.evaluate (α := α) text context
  | @Action.evaluateCall α _ text call =>
    p.inSession .answered fun s => s.evaluateCall (α := α) text call
  | @Action.resolveOrDefault _ _ text context default =>
    p.inSession .resolved fun s => Id.run (s.resolveOrDefault text context (pure default))
  | @Action.ask α _ number text =>
    p.withResolver number fun r => p.inSession .answered fun s => s.serve (r.get (α := α) text)
  | @Action.askOrDefault _ _ number text default =>
    p.withResolver number fun r =>
      p.inSession .resolved fun s =>
        s.serve fun cache => Id.run (r.resolveOrDefault text (pure default) cache)
  | .useCache a =>
    p.inSession .used fun s =>
      let (reply, cache) := s.cache.perform a
      (reply, { s with cache := cache })

/-- The program after a list of actions from its start. -/
def run (actions : List Action) : Program := actions.foldl (fun p a => (p.perform a).2) new

/-- What an action is answered after a list of actions. -/
def replyTo (actions : List Action) (a : Action) : Reply := ((run actions).perform a).1

end Program
end ExprLang
