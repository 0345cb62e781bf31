import ExprLang.Proofs.Parser.Language

/-!
# What is not too deep

A phrase is read if it takes no more levels than may be open.  The levels that it takes are not those
on the ways from the root of its derivation to the leaves, where each node of the tree counts once and
each pair of parentheses: the links of a chain keep their levels until the chain ends, and an operand
on the right of an operator is an expression of its own.  So a phrase can be refused although no way to
a leaf is long.

## Main definitions

* `Derivation.levels` — the length of the longest way to a leaf.

## Main results

* `parse_of_charge_le` — **what is read for sure**, and what chains take.
* `parse_sum_too_deep` — a text that is refused, with short ways to all leaves.

## References

`SPEC_FULL.md`, 10.1, on chains that count one level for each link; the reference's `deepen`, and
its tests `test_nesting_limit_counts_operator_chains` and
`test_nesting_limit_counts_postfix_chains`.
-/

namespace ExprLang

/-! ### Ways to a leaf -/

mutual

/-- The largest number of levels on a way from the root of a derivation to a leaf, one for each node of
the tree and one for each pair of parentheses. -/
def Derivation.levels : {p : Precedence} → Derivation p → Nat
  | _, .tighter d => d.levels
  | _, .conditional c t f => max c.levels (max t.levels f.levels) + 1
  | _, .elvis v f => max v.levels f.levels + 1
  | _, .binary _ _ l r => max l.levels r.levels + 1
  | _, .unary _ d => d.levels + 1
  | _, .access b a => max b.levels a.levels + 1
  | _, .atom _ => 1
  | _, .parens d => d.levels + 1
  | _, .list items => items.levels + 1

/-- The same for what a link has in brackets. -/
def Access.levels : Access → Nat
  | .property _ _ => 0
  | .call _ _ items => items.levels
  | .index d => d.levels

def Items.levels : Items → Nat
  | .none => 0
  | .more items => items.levels

def More.levels : More → Nat
  | .last d => d.levels
  | .cons d items => max d.levels items.levels

end

/-! ### What is read -/

/-- **What is read for sure.**  A text is read as its tree if its derivation takes no more levels than
may be open.  A chain of operators of one level, or of accesses, takes one level for each link, beside
what one of the operands on the right, or of what stands in brackets, takes at most. -/
theorem parse_of_charge_le :
    (∀ (text : String) (d : Derivation .ternary), (lexemesOf text).failure = none →
      tokensOf text = d.tokens → d.charge ≤ maxDepth → parse text = .ok d.tree) ∧
    (∀ {p : Precedence} (first : Derivation p) (links : List (Link p)) (k : Nat),
      (∀ link ∈ links, link.right.charge ≤ k) →
        (first.chain links).charge ≤ max first.charge (1 + first.links + links.length + k)) ∧
    (∀ (base : Derivation .member) (links : List Access) (k : Nat),
      (∀ link ∈ links, link.need ≤ k) →
        (base.path links).charge ≤ max base.charge (1 + base.links + links.length + k)) := by
  refine ⟨fun text d hwhole htokens hcharge => ?_, fun first _ _ h => first.charge_chain_le h,
    fun base _ _ h => base.charge_path_le h⟩
  have hderives : Derives .ternary (tokensOf text) d.tree := htokens ▸ d.derives
  rw [parse, if_neg (not_isBlankText_of_derives hderives)]
  rcases parseLexemes_of_derivation hwhole htokens with hread | ⟨hlt, -⟩
  · exact hread
  · omega

/-! ### Sums -/

/-- A plus sign with the operand on its right. -/
def Link.plus (operand : Derivation .unary) : Link .additive := ⟨.add, rfl, .tighter operand⟩

/-- The name `x` behind as many minus signs. -/
def Derivation.negated : Nat → Derivation .unary
  | 0 => .tighter (.atom (.identifier "x"))
  | n + 1 => .unary .negate (negated n)

/-- What stands behind the first name of a sum: as many names, and one behind minus signs. -/
def addends (names minusSigns : Nat) : List (Link .additive) :=
  List.replicate names (.plus (.negated 0)) ++ [.plus (.negated minusSigns)]

def Derivation.sum (names minusSigns : Nat) : Derivation .ternary :=
  .tighter (.tighter (.tighter (.tighter (.tighter
    (chain (.tighter (.tighter (negated 0))) (addends names minusSigns))))))

def sumText (names minusSigns : Nat) : String :=
  String.ofList ((List.replicate (names + 1) ['x', '+']).flatten ++
    (List.replicate minusSigns '-' ++ ['x']))

/-- A sum that takes all the levels there are, and a chain of accesses that does. -/
theorem parse_of_charge_le_of_sum :
    parse (sumText 31 94) = .ok (Derivation.sum 31 94).tree ∧
      (Derivation.path (.atom .null) (List.replicate 127 (.property true "x"))).charge ≤
        maxDepth := by
  obtain ⟨hread, hchain, hpath⟩ := parse_of_charge_le
  have haddends : ∀ link ∈ addends 31 94, link.right.charge ≤ 95 := by decide +kernel
  have hsum : (Derivation.sum 31 94).charge ≤ maxDepth := hchain _ _ 95 haddends
  have hlexemes : (lexemesOf (sumText 31 94)).failure = none ∧
      tokensOf (sumText 31 94) = (Derivation.sum 31 94).tokens := by decide +kernel
  have haccesses := hpath (.atom .null) (List.replicate 127 (.property true "x")) 0 fun link h => by
    rw [List.eq_of_mem_replicate h]
    exact Nat.le_refl 0
  rw [List.length_replicate] at haccesses
  exact ⟨hread _ _ hlexemes.1 hlexemes.2 hsum, Nat.le_trans haccesses (by decide)⟩

/-- With one minus sign more the sum is refused, although no way to a leaf of it has more than 97
levels. -/
theorem parse_sum_too_deep :
    (lexemesOf (sumText 31 95)).failure = none ∧
      tokensOf (sumText 31 95) = (Derivation.sum 31 95).tokens ∧
      (Derivation.sum 31 95).levels = 97 ∧ 97 ≤ maxDepth ∧
      parse (sumText 31 95) = .error (.tooDeeplyNested maxDepth 160) := by
  decide +kernel

end ExprLang
