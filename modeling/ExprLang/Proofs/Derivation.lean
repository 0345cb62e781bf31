import ExprLang.Proofs.Level

/-!
# Derivations and the levels they take

A tree does not tell how its phrase was written: a pair of parentheses leaves no trace in it.  A
derivation keeps that.  It is a phrase together with the way in which the grammar derives it, so the
levels that are opened to read the phrase can be counted on it.

An expression takes a level, and so does what stands in parentheses, each item and each operand on the
right of an operator.  Chains are read in a loop which takes a level for each of its links and gives
none of them back before the chain ends.  So the operands of a link have the levels of all the links
before it against them as well, although they stand no deeper in the tree for it.

## Main definitions

* `Derivation p`, `Access`, `Items`, `More` — the ways in which phrases of level `p` are derived, and
  the parts of them.
* `Derivation.tokens`, `Derivation.tree` — what is derived.
* `Derivation.links`, `Derivation.need` — the levels that the loop over a phrase has open at its end,
  and the largest number that it has open on the way.
* `Derivation.charge` — the levels that an expression takes.
* `Derivation.chain`, `Derivation.path` — chains of operators and of accesses.

## Main results

* `Derivation.derives`, `Derives.exists_derivation` — phrases are what has a derivation.
* `Derivation.charge_chain_le`, `Derivation.charge_path_le` — a chain takes one level for each link.
-/

namespace ExprLang

/-- The token that an operator before an operand is written as. -/
def UnaryOperator.token : UnaryOperator → Token
  | .negate => .operator .subtract
  | .not => .not

/-! ### Derivations -/

mutual

/-- How a phrase of a level is derived. -/
inductive Derivation : Precedence → Type
  | tighter {p : Precedence} (phrase : Derivation p.next) : Derivation p
  | conditional (condition : Derivation .or) (whenTrue whenFalse : Derivation .ternary) :
    Derivation .ternary
  | elvis (value : Derivation .or) (fallback : Derivation .ternary) : Derivation .ternary
  | binary {p : Precedence} (op : BinaryOperator) (hp : op.precedence = p) (left : Derivation p)
    (right : Derivation p.next) : Derivation p
  | unary (op : UnaryOperator) (operand : Derivation .unary) : Derivation .unary
  | access (base : Derivation .member) (link : Access) : Derivation .member
  | atom {t : Token} {e : Expr} (h : Atom t e) : Derivation .member
  | parens (inner : Derivation .ternary) : Derivation .member
  | list (items : Items) : Derivation .member

/-- How a link of a chain of member accesses is derived. -/
inductive Access : Type
  | property (nullSafe : Bool) (name : String)
  | call (nullSafe : Bool) (name : String) (arguments : Items)
  | index (position : Derivation .ternary)

/-- How any number of phrases with commas between are derived. -/
inductive Items : Type
  | none
  | more (items : More)

/-- How at least one phrase is. -/
inductive More : Type
  | last (item : Derivation .ternary)
  | cons (item : Derivation .ternary) (items : More)

end

mutual

/-- The tokens of a phrase. -/
def Derivation.tokens : {p : Precedence} → Derivation p → List Token
  | _, .tighter d => d.tokens
  | _, .conditional c t f => c.tokens ++ .question :: (t.tokens ++ .colon :: f.tokens)
  | _, .elvis v f => v.tokens ++ .elvis :: f.tokens
  | _, .binary op _ l r => l.tokens ++ .operator op :: r.tokens
  | _, .unary op d => op.token :: d.tokens
  | _, .access b a => b.tokens ++ a.tokens
  | _, @Derivation.atom t _ _ => [t]
  | _, .parens d => .leftParen :: (d.tokens ++ [.rightParen])
  | _, .list items => .leftBrace :: (items.tokens ++ [.rightBrace])

def Access.tokens : Access → List Token
  | .property nullSafe name => [memberDot nullSafe, .identifier name]
  | .call nullSafe name items =>
    memberDot nullSafe :: .identifier name :: .leftParen :: (items.tokens ++ [.rightParen])
  | .index d => .leftBracket :: (d.tokens ++ [.rightBracket])

def Items.tokens : Items → List Token
  | .none => []
  | .more items => items.tokens

def More.tokens : More → List Token
  | .last d => d.tokens
  | .cons d items => d.tokens ++ .comma :: items.tokens

end

mutual

/-- The tree of a phrase. -/
def Derivation.tree : {p : Precedence} → Derivation p → Expr
  | _, .tighter d => d.tree
  | _, .conditional c t f => .conditional c.tree t.tree f.tree
  | _, .elvis v f => .elvis v.tree f.tree
  | _, .binary op _ l r => .binary op l.tree r.tree
  | _, .unary op d => .unary op d.tree
  | _, .access b a => a.onto b.tree
  | _, @Derivation.atom _ e _ => e
  | _, .parens d => d.tree
  | _, .list items => .list items.trees

/-- The tree of a chain with one more link. -/
def Access.onto : Access → Expr → Expr
  | .property nullSafe name, e => .property e name nullSafe
  | .call nullSafe name items, e => .call e name items.trees nullSafe
  | .index d, e => .index e d.tree

def Items.trees : Items → List Expr
  | .none => []
  | .more items => items.trees

def More.trees : More → List Expr
  | .last d => [d.tree]
  | .cons d items => d.tree :: items.trees

end

theorem More.exists_trees_eq_cons (items : More) : ∃ e es, items.trees = e :: es := by
  cases items <;> exact ⟨_, _, rfl⟩

mutual

/-- What has a derivation is a phrase. -/
theorem Derivation.derives : {p : Precedence} → (d : Derivation p) → Derives p d.tokens d.tree
  | _, .tighter d => .tighter d.derives
  | _, .conditional c t f => .conditional c.derives t.derives f.derives
  | _, .elvis v f => .elvis v.derives f.derives
  | _, .binary op hp l r => by
    have hl := l.derives
    have hr := r.derives
    subst hp
    exact .binary op hl hr
  | _, .unary .negate d => .negate d.derives
  | _, .unary .not d => .not d.derives
  | _, .access b a => a.derives b.derives
  | _, .atom h => .atom h
  | _, .parens d => .parens d.derives
  | _, .list items => .list items.derives

theorem Access.derives : (a : Access) → {ts : List Token} → {e : Expr} → Derives .member ts e →
    Derives .member (ts ++ a.tokens) (a.onto e)
  | .property nullSafe name, _, _, h => .property nullSafe name h
  | .call nullSafe name items, _, _, h => .call nullSafe name h items.derives
  | .index d, _, _, h => .index h d.derives

theorem Items.derives : (items : Items) → DerivesItems items.tokens items.trees
  | .none => .none
  | .more items => items.derives

theorem More.derives : (items : More) → DerivesItems items.tokens items.trees
  | .last d => .last d.derives
  | .cons d items => by
    have hitems := items.derives
    obtain ⟨e, es, htrees⟩ := items.exists_trees_eq_cons
    rw [htrees] at hitems
    rw [More.trees, htrees]
    exact .cons d.derives hitems

end

mutual

/-- Every phrase has a derivation. -/
theorem Derives.exists_derivation {p : Precedence} {ts : List Token} {e : Expr} :
    Derives p ts e → ∃ d : Derivation p, d.tokens = ts ∧ d.tree = e
  | .tighter h => by
    obtain ⟨d, rfl, rfl⟩ := h.exists_derivation
    exact ⟨.tighter d, rfl, rfl⟩
  | .conditional hc ht hf => by
    obtain ⟨c, rfl, rfl⟩ := hc.exists_derivation
    obtain ⟨t, rfl, rfl⟩ := ht.exists_derivation
    obtain ⟨f, rfl, rfl⟩ := hf.exists_derivation
    exact ⟨.conditional c t f, rfl, rfl⟩
  | .elvis hv hf => by
    obtain ⟨v, rfl, rfl⟩ := hv.exists_derivation
    obtain ⟨f, rfl, rfl⟩ := hf.exists_derivation
    exact ⟨.elvis v f, rfl, rfl⟩
  | .binary op hl hr => by
    obtain ⟨l, rfl, rfl⟩ := hl.exists_derivation
    obtain ⟨r, rfl, rfl⟩ := hr.exists_derivation
    exact ⟨.binary op rfl l r, rfl, rfl⟩
  | .negate h => by
    obtain ⟨d, rfl, rfl⟩ := h.exists_derivation
    exact ⟨.unary .negate d, rfl, rfl⟩
  | .not h => by
    obtain ⟨d, rfl, rfl⟩ := h.exists_derivation
    exact ⟨.unary .not d, rfl, rfl⟩
  | .property nullSafe name h => by
    obtain ⟨d, rfl, rfl⟩ := h.exists_derivation
    exact ⟨.access d (.property nullSafe name), rfl, rfl⟩
  | .call nullSafe name h hs => by
    obtain ⟨d, rfl, rfl⟩ := h.exists_derivation
    obtain ⟨items, rfl, rfl⟩ := hs.exists_items
    exact ⟨.access d (.call nullSafe name items), rfl, rfl⟩
  | .index h hi => by
    obtain ⟨d, rfl, rfl⟩ := h.exists_derivation
    obtain ⟨i, rfl, rfl⟩ := hi.exists_derivation
    exact ⟨.access d (.index i), rfl, rfl⟩
  | .atom h => ⟨.atom h, rfl, rfl⟩
  | .parens h => by
    obtain ⟨d, rfl, rfl⟩ := h.exists_derivation
    exact ⟨.parens d, rfl, rfl⟩
  | .list hs => by
    obtain ⟨items, rfl, rfl⟩ := hs.exists_items
    exact ⟨.list items, rfl, rfl⟩

theorem DerivesItems.exists_items {ts : List Token} {es : List Expr} :
    DerivesItems ts es → ∃ items : Items, items.tokens = ts ∧ items.trees = es
  | .none => ⟨.none, rfl, rfl⟩
  | .last h => by
    obtain ⟨d, rfl, rfl⟩ := h.exists_derivation
    exact ⟨.more (.last d), rfl, rfl⟩
  | .cons h hs => by
    obtain ⟨d, rfl, rfl⟩ := h.exists_derivation
    obtain ⟨items, rfl, htrees⟩ := hs.exists_items
    cases items with
    | none => cases htrees
    | more items => exact ⟨.more (.cons d items), rfl, congrArg (_ :: ·) htrees⟩

end

/-! ### Levels -/

/-- The links for which the loop that has read a phrase still has a level open.  The loop over accesses
has ended where an operand begins. -/
def Derivation.links : {p : Precedence} → Derivation p → Nat
  | p, .tighter d => if p = .unary then 0 else d.links
  | _, .conditional c _ _ => c.links + 1
  | _, .elvis v _ => v.links + 1
  | _, .binary _ _ l _ => l.links + 1
  | _, .access b _ => b.links + 1
  | _, .unary _ _ | _, .atom _ | _, .parens _ | _, .list _ => 0

mutual

/-- The largest number of levels that the loop over a phrase has open on the way. -/
def Derivation.need : {p : Precedence} → Derivation p → Nat
  | _, .tighter d => d.need
  | _, .conditional c t f => max c.need (c.links + 1 + (max t.need f.need + 1))
  | _, .elvis v f => max v.need (v.links + 1 + (f.need + 1))
  | _, .binary _ _ l r => max l.need (l.links + 1 + (r.need + 1))
  | _, .unary _ d => d.need + 1
  | _, .access b a => max b.need (b.links + 1 + a.need)
  | _, .atom _ => 0
  | _, .parens d => d.need + 1
  | _, .list items => items.need

/-- The largest number of levels that are open for what a link has in brackets. -/
def Access.need : Access → Nat
  | .property _ _ => 0
  | .call _ _ items => items.need
  | .index d => d.need + 1

/-- The largest number of levels that are open for one of the items. -/
def Items.need : Items → Nat
  | .none => 0
  | .more items => items.need

def More.need : More → Nat
  | .last d => d.need + 1
  | .cons d items => max (d.need + 1) items.need

end

/-- The levels that an expression takes, with the one for itself. -/
def Derivation.charge {p : Precedence} (d : Derivation p) : Nat := d.need + 1

/-! ### Chains -/

/-- An operator of a level with the operand on its right. -/
structure Link (p : Precedence) where
  op : BinaryOperator
  level : op.precedence = p
  right : Derivation p.next

namespace Derivation

variable {p : Precedence} {k : Nat}

/-- A chain of operators of one level, which leans to the left. -/
def chain (first : Derivation p) (links : List (Link p)) : Derivation p :=
  links.foldl (fun left link => .binary link.op link.level left link.right) first

/-- A chain of member accesses. -/
def path (base : Derivation .member) (links : List Access) : Derivation .member :=
  links.foldl .access base

/-- A chain of operators takes one level for each link, beside what an operand takes. -/
theorem charge_chain_le (first : Derivation p) {links : List (Link p)}
    (h : ∀ link ∈ links, link.right.charge ≤ k) :
    (first.chain links).charge ≤ max first.charge (1 + first.links + links.length + k) := by
  -- with its first link the chain begins with a longer phrase, which has one link more open
  induction links generalizing first with
  | nil => exact Nat.le_max_left _ _
  | cons link links ih =>
    have hrest := ih (.binary link.op link.level first link.right)
      fun link' h' => h link' (List.mem_cons_of_mem _ h')
    have hright := h link List.mem_cons_self
    rw [chain, List.foldl_cons, ← chain]
    simp only [charge, Derivation.need, Derivation.links, List.length_cons] at *
    omega

/-- A chain of accesses takes one level for each link, beside what stands in brackets. -/
theorem charge_path_le (base : Derivation .member) {links : List Access}
    (h : ∀ link ∈ links, link.need ≤ k) :
    (base.path links).charge ≤ max base.charge (1 + base.links + links.length + k) := by
  induction links generalizing base with
  | nil => exact Nat.le_max_left _ _
  | cons link links ih =>
    have hrest := ih (.access base link) fun link' h' => h link' (List.mem_cons_of_mem _ h')
    have hlink := h link List.mem_cons_self
    rw [path, List.foldl_cons, ← path]
    simp only [charge, Derivation.need, Derivation.links, List.length_cons] at *
    omega

end Derivation

end ExprLang
