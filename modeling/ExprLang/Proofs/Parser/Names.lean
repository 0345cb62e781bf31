import ExprLang.Compiled
import ExprLang.Proofs.Parser.Language

/-!
# The names of a text

The references of an expression can be read off the tokens of its text.  Every name in the text is
one, but for the names of members, which stand behind a dot.  The grammar puts operands together in the
order in which they are written, however the operators group them, so that the tree has the names of
the text in the order of the text.

## Main definitions

* `Token.reference?` — the name that a token refers to.
* `namesFrom`, `namesIn` — the names that tokens refer to, from the left to the right.

## Main results

* `Derives.namesFrom_append` — the names of a phrase are the names of its tree.
* `references_eq_namesIn` — **the references are the names of the text**.

## References

The reference's `collect_references`, beside the tokens that `next_token` finds.
-/

namespace ExprLang

/-! ### Names of tokens -/

/-- A dot, behind which a name is the name of a member. -/
def Token.isDot : Token → Bool
  | .dot | .safeDot => true
  | _ => false

/-- The name that a token refers to; a bare name behind a dot refers to nothing. -/
def Token.reference? (afterDot : Bool) : Token → Option Reference
  | .identifier name => if afterDot then none else some (.identifier name)
  | .binding name => some (.binding name)
  | .component name => some (.component name)
  | _ => none

/-- The names that tokens refer to, each as often as it comes; `afterDot` says whether the token before
them is a dot. -/
def namesFrom (afterDot : Bool) : List Token → List Reference
  | [] => []
  | t :: ts => (t.reference? afterDot).toList ++ namesFrom t.isDot ts

/-- The names that the tokens of a text refer to, each as often as it comes. -/
def namesIn (ts : List Token) : List Reference := namesFrom false ts

@[simp] theorem namesFrom_nil (afterDot : Bool) : namesFrom afterDot [] = [] := rfl

theorem namesFrom_cons (afterDot : Bool) (t : Token) (ts : List Token) :
    namesFrom afterDot (t :: ts) = (t.reference? afterDot).toList ++ namesFrom t.isDot ts := rfl

/-- What the tokens at the front refer to does not depend on those behind them. -/
theorem namesFrom_isPrefix_append (afterDot : Bool) (ts us : List Token) :
    namesFrom afterDot ts <+: namesFrom afterDot (ts ++ us) := by
  induction ts generalizing afterDot with
  | nil => exact List.nil_prefix
  | cons t ts ih =>
    rw [List.cons_append, namesFrom_cons, namesFrom_cons]
    exact (List.prefix_append_right_inj _).mpr (ih t.isDot)

/-- A token that neither refers to anything nor is a dot can be passed over. -/
theorem namesFrom_cons_silent {t : Token} (href : t.reference? false = none) (hdot : t.isDot = false)
    (ts : List Token) : namesFrom false (t :: ts) = namesFrom false ts := by
  rw [namesFrom_cons, href, hdot]
  rfl

/-- The name of a member can be passed over together with its dot. -/
theorem namesFrom_member (nullSafe : Bool) (name : String) (ts : List Token) :
    namesFrom false (memberDot nullSafe :: .identifier name :: ts) = namesFrom false ts := by
  cases nullSafe <;> rfl

theorem Atom.namesFrom_cons {t : Token} {e : Expr} (h : Atom t e) (ts : List Token) :
    namesFrom false (t :: ts) = e.occurrences ++ namesFrom false ts := by
  cases h <;> rfl

/-! ### Names of phrases -/

mutual

/-- A phrase has the names of its tree, in the same order, and does not end with a dot. -/
theorem Derives.namesFrom_append {p : Precedence} {ts : List Token} {e : Expr} :
    Derives p ts e → ∀ us, namesFrom false (ts ++ us) = e.occurrences ++ namesFrom false us
  | .tighter h, us => h.namesFrom_append us
  -- only names and the dots before them are seen, so other tokens are passed over
  | .conditional hc ht hf, us => by
    simp only [List.append_assoc, List.cons_append, Expr.occurrences]
    rw [hc.namesFrom_append, namesFrom_cons_silent rfl rfl, ht.namesFrom_append,
      namesFrom_cons_silent rfl rfl, hf.namesFrom_append]
  | .elvis hv hf, us => by
    simp only [List.append_assoc, List.cons_append, Expr.occurrences]
    rw [hv.namesFrom_append, namesFrom_cons_silent rfl rfl, hf.namesFrom_append]
  | .binary _ hl hr, us => by
    simp only [List.append_assoc, List.cons_append, Expr.occurrences]
    rw [hl.namesFrom_append, namesFrom_cons_silent rfl rfl, hr.namesFrom_append]
  | .negate h, us | .not h, us => by
    rw [List.cons_append, namesFrom_cons_silent rfl rfl, h.namesFrom_append]
    rfl
  | .property _ _ h, us => by
    simp only [List.append_assoc, List.cons_append, List.nil_append, Expr.occurrences]
    rw [h.namesFrom_append, namesFrom_member]
  | .call _ _ h hs, us => by
    simp only [List.append_assoc, List.cons_append, List.nil_append, Expr.occurrences]
    rw [h.namesFrom_append, namesFrom_member, namesFrom_cons_silent rfl rfl, hs.namesFrom_append,
      namesFrom_cons_silent rfl rfl]
  | .index h hi, us => by
    simp only [List.append_assoc, List.cons_append, List.nil_append, Expr.occurrences]
    rw [h.namesFrom_append, namesFrom_cons_silent rfl rfl, hi.namesFrom_append,
      namesFrom_cons_silent rfl rfl]
  | .atom h, us => h.namesFrom_cons us
  | .parens h, us => by
    simp only [List.append_assoc, List.cons_append, List.nil_append]
    rw [namesFrom_cons_silent rfl rfl, h.namesFrom_append, namesFrom_cons_silent rfl rfl]
  | .list hs, us => by
    simp only [List.append_assoc, List.cons_append, List.nil_append, Expr.occurrences]
    rw [namesFrom_cons_silent rfl rfl, hs.namesFrom_append, namesFrom_cons_silent rfl rfl]

theorem DerivesItems.namesFrom_append {ts : List Token} {es : List Expr} :
    DerivesItems ts es →
      ∀ us, namesFrom false (ts ++ us) = occurrencesOfAll es ++ namesFrom false us
  | .none, _ => rfl
  | .last h, us => by
    rw [h.namesFrom_append]
    simp only [occurrencesOfAll, List.append_nil]
  | .cons h hs, us => by
    rw [List.append_assoc, List.cons_append, h.namesFrom_append, namesFrom_cons_silent rfl rfl,
      hs.namesFrom_append, ← List.append_assoc]
    rfl

end

theorem Derives.namesIn_eq {p : Precedence} {ts : List Token} {e : Expr} (h : Derives p ts e) :
    namesIn ts = e.occurrences := by
  simpa [namesIn] using h.namesFrom_append []

/-! ### Names once -/

theorem nodup_eraseDups : ∀ names : List Reference, names.eraseDups.Nodup
  | [] => List.nodup_nil
  | r :: names => by
    rw [List.eraseDups_cons, List.nodup_cons]
    exact ⟨by simp [List.mem_eraseDups], nodup_eraseDups _⟩
termination_by names => names.length
decreasing_by exact Nat.lt_succ_of_le (List.length_filter_le _ names)

/-- Each name keeps its place when further names come behind. -/
theorem eraseDups_isPrefix {names names' : List Reference} (h : names <+: names') :
    names.eraseDups <+: names'.eraseDups := by
  obtain ⟨more, rfl⟩ := h
  rw [List.eraseDups_append]
  exact List.prefix_append _ _

/-- **The references are the names of the text.**  They are the names that the tokens refer to, from
the left to the right and each where it comes first: none is missing, none comes twice, and what has
been referred to up to some place in the text comes before everything that has not. -/
theorem references_eq_namesIn {text : String} {compiled : Compiled}
    (h : Compiled.ofText text = .ok compiled) :
    (lexemesOf text).failure = none ∧
      compiled.references = (namesIn (tokensOf text)).eraseDups ∧
      compiled.references.Nodup ∧
      ∀ ts, ts <+: tokensOf text → (namesIn ts).eraseDups <+: compiled.references := by
  have hstands := StandsFor.of_parse (Compiled.parse_of_ofText h)
  have hnames : compiled.references = (namesIn (tokensOf text)).eraseDups := by
    rw [hstands.derives.namesIn_eq]
    rfl
  refine ⟨hstands.whole, hnames, nodup_eraseDups _, fun ts hts => ?_⟩
  rw [hnames]
  obtain ⟨us, hus⟩ := hts
  rw [← hus]
  exact eraseDups_isPrefix (namesFrom_isPrefix_append false ts us)

/-- Names of members are none of the references, and a name that comes twice is one of them. -/
theorem references_of_members :
    ∃ compiled, Compiled.ofText "a.b(#c, a)?.d + @b * a[b]" = .ok compiled ∧
      compiled.references =
        [.identifier "a", .binding "c", .component "b", .identifier "b"] := by
  have hok : (Compiled.ofText "a.b(#c, a)?.d + @b * a[b]").toOption.isSome := by decide +kernel
  have htokens : (namesIn (tokensOf "a.b(#c, a)?.d + @b * a[b]")).eraseDups =
      [.identifier "a", .binding "c", .component "b", .identifier "b"] := by decide +kernel
  cases hcompiled : Compiled.ofText "a.b(#c, a)?.d + @b * a[b]" with
  | error error =>
    rw [hcompiled] at hok
    cases hok
  | ok compiled => exact ⟨compiled, rfl, (references_eq_namesIn hcompiled).2.1.trans htokens⟩

end ExprLang
