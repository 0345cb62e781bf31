import ExprLang.Proofs.Session.Fallback

/-!
# Conditions of calls

Whether there is a resolver for a call can be made to depend on a condition.  On the way to its truth
much can go wrong: the method or the arguments are not known, no source knows the names, the text is
missing, its evaluation fails, or what it evaluates to is no truth value.  None of that opens the gate.
There is a resolver where the condition has been found true in the context of the call, and an error
where the condition is not an expression; everywhere else the gate stays closed without a word.

## Main definitions

* `Value.IsTrue` — the values that count as true.
* `Condition.Holds`, `Condition.Refused` — a condition that is true, and one that cannot be read.

## Main results

* `Coercible.boolean?_eq_some_true_iff` — what is seen as true.
* `Call.gate_run` — **the gate opens for a condition that holds, and for no other**.

## References

`SPEC_FULL.md`, 4.5 and 8; the reference's `from_call_with_condition`.
-/

namespace ExprLang

/-! ### Truth -/

/-- The value counts as true: it is so, or it is a text that writes so in letters of either case. -/
inductive Value.IsTrue : Value → Prop
  | boolean : IsTrue (.boolean true)
  | string {s : String} (h : s.toList.map Char.toLower = "true".toList) : IsTrue (.string s)

namespace Coercible

theorem readBoolean?_eq_some_true_iff {s : String} :
    readBoolean? s = some true ↔ s.toList.map Char.toLower = "true".toList := by
  unfold readBoolean?
  constructor
  · intro h
    by_cases htrue : s.toList.map Char.toLower = "true".toList
    · exact htrue
    · -- what is left writes `false`, or nothing
      rw [if_neg htrue] at h
      split at h <;> cases h
  · intro h
    exact if_pos h

/-- What is seen as true is what counts as true. -/
theorem boolean?_eq_some_true_iff {v : Value} : boolean? v = some true ↔ v.IsTrue := by
  constructor
  · intro h
    cases v with
    | boolean b =>
      cases h
      exact .boolean
    | string s => exact .string (readBoolean?_eq_some_true_iff.mp h)
    | _ => cases h
  · intro h
    cases h with
    | boolean => rfl
    | string h => exact readBoolean?_eq_some_true_iff.mpr h

theorem ofValue_eq_ok_true_iff {v : Value} :
    (ofValue v : Except ConversionError Bool) = .ok true ↔ v.IsTrue := by
  rw [← boolean?_eq_some_true_iff]
  show orMismatch "Boolean" v (boolean? v) = .ok true ↔ _
  cases boolean? v with
  | none => exact ⟨nofun, nofun⟩
  | some b =>
    constructor <;>
    · intro h
      cases h
      rfl

end Coercible

theorem Compiled.hasValue_true_iff {compiled : Compiled} {context : Context} :
    compiled.HasValue context true ↔ ∃ v, compiled.tree.eval context = .ok v ∧ v.IsTrue := by
  refine exists_congr fun v => and_congr_right fun _ => ?_
  rw [Coercible.ofValue_eq_ok_true_iff]
  refine and_iff_right_of_imp ?_
  rintro htrue rfl
  cases htrue

/-! ### Conditions -/

namespace Condition

/-- There is a condition, it can be read, and in the context it evaluates to something true. -/
def Holds (condition : Option String) (context : Context) : Prop :=
  ∃ s compiled v, condition = some s ∧ isBlankText s = false ∧ Compiled.ofText s = .ok compiled ∧
    compiled.tree.eval context = .ok v ∧ v.IsTrue

/-- There is a condition, it is not blank, and it cannot be read for the reason given. -/
def Refused (condition : Option String) (err : RequestError) : Prop :=
  ∃ s e, condition = some s ∧ isBlankText s = false ∧ Compiled.ofText s = .error e ∧
    err = .compile s e

variable {condition : Option String} {context : Context}

theorem holds_iff_exists_hasValue :
    Holds condition context ↔ ∃ s compiled, condition = some s ∧ Compiled.ofText s = .ok compiled ∧
      compiled.HasValue context true := by
  constructor
  · rintro ⟨s, compiled, v, hs, -, hok, heval, htrue⟩
    exact ⟨s, compiled, hs, hok, Compiled.hasValue_true_iff.mpr ⟨v, heval, htrue⟩⟩
  · rintro ⟨s, compiled, hs, hok, hvalue⟩
    obtain ⟨v, heval, htrue⟩ := Compiled.hasValue_true_iff.mp hvalue
    exact ⟨s, compiled, v, hs, Compiled.not_isBlankText_of_ofText hok, hok, heval, htrue⟩

end Condition

/-! ### The gate -/

namespace Call

variable {c : Cache} (call : Call) (source : NameSource) (shared : Option Registry)
  (condition : Option String)

/-- The answer of the gate is made from the truth of the condition. -/
theorem fst_run_resolverIf (c : Cache) :
    ((call.resolverIf source shared condition).run.run c).1 =
      Except.map (fun b => if b then some (call.resolver source shared) else none)
        (Id.run ((call.resolver source shared).resolveOrDefault condition (pure false) c)).1 := by
  rw [run_resolverIf]
  rfl

theorem resolverIf_eq_some_iff (h : c.Faithful) (r : Resolver) :
    ((call.resolverIf source shared condition).run.run c).1 = .ok (some r) ↔
      r = call.resolver source shared ∧
        Condition.Holds condition (call.resolver source shared).context := by
  rw [fst_run_resolverIf, Condition.holds_iff_exists_hasValue,
    ← h.resolveOrDefault_eq_ok_iff (call.resolver source shared) condition
      (nofun : true ≠ false)]
  -- the gate is open when the condition evaluates to true, and an error is no resolver
  generalize (Id.run ((call.resolver source shared).resolveOrDefault condition
    (pure false) c)).1 = truth
  cases truth with
  | error e => exact ⟨nofun, nofun⟩
  | ok b =>
    cases b with
    | true =>
      constructor
      · intro h
        cases h
        exact ⟨rfl, rfl⟩
      · rintro ⟨rfl, -⟩
        rfl
    | false => exact ⟨nofun, nofun⟩

theorem resolverIf_eq_error_iff (h : c.Faithful) (err : RequestError) :
    ((call.resolverIf source shared condition).run.run c).1 = .error err ↔
      Condition.Refused condition err := by
  rw [fst_run_resolverIf, Condition.Refused,
    ← h.resolveOrDefault_eq_error_iff (call.resolver source shared) condition false err]
  generalize (Id.run ((call.resolver source shared).resolveOrDefault condition
    (pure false) c)).1 = truth
  cases truth with
  | error e =>
    constructor <;>
    · intro h
      cases h
      rfl
  | ok b => cases b <;> exact ⟨nofun, nofun⟩

/-- The gate stays closed where it has no reason to do anything else. -/
theorem resolverIf_eq_none_iff (h : c.Faithful) :
    ((call.resolverIf source shared condition).run.run c).1 = .ok none ↔
      ¬ Condition.Holds condition (call.resolver source shared).context ∧
        ∀ err, ¬ Condition.Refused condition err := by
  have hsome := resolverIf_eq_some_iff call source shared condition h
  have herror := resolverIf_eq_error_iff call source shared condition h
  generalize ((call.resolverIf source shared condition).run.run c).1 = answer at hsome herror ⊢
  constructor
  · rintro rfl
    refine ⟨fun hholds => ?_, fun err hrefused => ?_⟩
    · cases (hsome _).mpr ⟨rfl, hholds⟩
    · cases (herror err).mpr hrefused
  · rintro ⟨hholds, hrefused⟩
    match answer with
    | .error err => exact absurd ((herror err).mp rfl) (hrefused err)
    | .ok (some r) => exact absurd ((hsome r).mp rfl).2 hholds
    | .ok none => rfl

/-- **The gate opens for a condition that holds, and for no other.**  Whatever is known of a call,
wherever the names of its parameters are looked for, and whatever the cache was used for,

* there is a resolver if and only if the condition holds in the context of the call, with the shared
  registry behind it, and then it is the resolver that the call has without a condition;
* there is an error if and only if there is a condition to speak of and it cannot be read, and the
  error says why;
* in all other cases there is nothing. -/
theorem gate_run (config : CacheConfig) (uses : List Cache.Action) :
    let c := (Cache.start config).run uses
    let context := (call.context source).orRegistry shared
    let answer := ((call.resolverIf source shared condition).run.run c).1
    (call.resolver source shared).context = context ∧
      (∀ r, answer = .ok (some r) ↔
        r = call.resolver source shared ∧ Condition.Holds condition context) ∧
      (∀ err, answer = .error err ↔ Condition.Refused condition err) ∧
      (answer = .ok none ↔
        ¬ Condition.Holds condition context ∧ ∀ err, ¬ Condition.Refused condition err) := by
  intro c context answer
  have hc : c.Faithful := Cache.faithful_run config uses
  exact ⟨rfl, fun r => call.resolverIf_eq_some_iff source shared condition hc r,
    fun err => call.resolverIf_eq_error_iff source shared condition hc err,
    call.resolverIf_eq_none_iff source shared condition hc⟩

/-- A call whose names are found by the second source of the second source: a condition that is a
comparison, one that is a text, one that is no truth value, and one that breaks off. -/
theorem gate_run_of_transfer :
    let call : Call := ⟨some ⟨"PaymentService", "transfer", 2, none⟩,
      some [.integer 60, .string "True"]⟩
    let source : NameSource := .chain [.declared,
      .chain [.table .empty, .function fun _ => some ["amount", "confirmed"]]]
    let c := (Cache.start .small).run [.compile "amount > 50" (some "holder"), .clear]
    let answer := fun condition : String =>
      ((call.resolverIf source none (some condition)).run.run c).1
    answer "amount > 50" = .ok (some (call.resolver source none)) ∧
      answer "confirmed" = .ok (some (call.resolver source none)) ∧
      answer "amount" = .ok none ∧
      answer "amount >" = .error (.compile "amount >" (.unexpectedEnd .operand)) := by
  intro call source c answer
  have hgate := fun condition : String => gate_run call source none (some condition) .small
    [.compile "amount > 50" (some "holder"), .clear]
  let comparison : Compiled :=
    ⟨"amount > 50", .binary .greaterThan (.identifier "amount") (.literal (.integer 50))⟩
  have hcomparison : Compiled.ofText "amount > 50" = .ok comparison := by decide +kernel
  have hconfirmed : Compiled.ofText "confirmed" = .ok ⟨"confirmed", .identifier "confirmed"⟩ := by
    decide +kernel
  have hamount : Compiled.ofText "amount" = .ok ⟨"amount", .identifier "amount"⟩ := by
    decide +kernel
  have hbroken : Compiled.ofText "amount >" = .error (.unexpectedEnd .operand) := by
    decide +kernel
  refine ⟨((hgate _).2.1 _).mpr ⟨rfl, ?_⟩, ((hgate _).2.1 _).mpr ⟨rfl, ?_⟩,
    (hgate _).2.2.2.mpr ⟨?_, ?_⟩, ((hgate _).2.2.1 _).mpr ⟨_, _, rfl, by decide, hbroken, rfl⟩⟩
  · exact ⟨_, comparison, .boolean true, rfl, by decide, hcomparison, rfl, .boolean⟩
  · exact ⟨_, _, .string "True", rfl, by decide, hconfirmed, rfl, .string rfl⟩
  · -- the amount is an integer
    rintro ⟨s, compiled, v, hs, -, hok, heval, htrue⟩
    cases hs
    cases hamount.symm.trans hok
    cases heval
    cases htrue
  · rintro err ⟨s, e, hs, -, herror, -⟩
    cases hs
    cases hamount.symm.trans herror

end Call
end ExprLang
