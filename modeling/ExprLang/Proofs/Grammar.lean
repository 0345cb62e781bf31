import ExprLang.Expr.Parser

/-!
# The grammar

The phrases of the language, apart from how they are read.  There is a kind of phrase for each level
of binding strength.  A phrase of the weakest level is a conditional, a fallback or a phrase of the
next level; those of the levels of binary operators are chains, which lean to the left; then come
operators before an operand, and last the chains of member accesses.

## Main definitions

* `Atom` — the tokens that are expressions by themselves.
* `Derives p ts e`, `DerivesItems ts es` — the tokens `ts` are a phrase of level `p` with the tree
  `e`, or phrases with commas between.
* `tokensOf` — the tokens of a text.
* `StandsFor text e` — the whole text is a phrase with the tree `e`.

## Main results

* `Derives.readable` — every literal in a phrase can be read.
* `Derives.exists_cons` — the tokens that a phrase may begin with.
-/

namespace ExprLang

/-! ### Atoms -/

/-- A token that is an expression by itself. -/
inductive Atom : Token → Expr → Prop
  | integer (n : Int64) : Atom (.integer n) (.literal (.integer n))
  | decimal {digits : String} {d : Decimal} (h : Decimal.read? digits.toList = some d) :
    Atom (.decimal digits) (.literal (.decimal d))
  | string {body : String} {cs : List Char} (h : unescape body.toList = .ok cs) :
    Atom (.string body) (.literal (.string (String.ofList cs)))
  | boolean (b : Bool) : Atom (.boolean b) (.literal (.boolean b))
  | null : Atom .null (.literal .null)
  | identifier (name : String) : Atom (.identifier name) (.identifier name)
  | binding (name : String) : Atom (.binding name) (.binding name)
  | component (name : String) : Atom (.component name) (.component name)

/-- A token that can be read for itself: the escapes of a string are defined, and a number has room
in its type. -/
def Token.Readable : Token → Prop
  | .decimal digits => ∃ d, Decimal.read? digits.toList = some d
  | .string body => ∃ cs, unescape body.toList = .ok cs
  | _ => True

theorem Atom.readable {t : Token} {e : Expr} (h : Atom t e) : t.Readable := by
  cases h with
  | decimal h => exact ⟨_, h⟩
  | string h => exact ⟨_, h⟩
  | _ => trivial

theorem atom_of_atom? {l : Lexeme} {e : Expr} (h : atom? l = some (.ok e)) : Atom l.token e := by
  obtain ⟨t, start, stop⟩ := l
  -- only a decimal and a string literal can be refused by `atom?`
  cases t with
  | decimal digits =>
    simp only [atom?, Option.some.injEq] at h
    split at h
    · next d hd =>
      obtain rfl : _ = e := by simpa using h
      exact .decimal hd
    · simp at h
  | string body =>
    simp only [atom?, Option.some.injEq] at h
    split at h
    · next cs hcs =>
      obtain rfl : _ = e := by simpa using h
      exact .string hcs
    · simp at h
  | integer _ | boolean _ | null | identifier _ | binding _ | component _ =>
    obtain rfl : _ = e := by simpa [atom?] using h
    constructor
  | _ => simp [atom?] at h

/-- Whether a token is an expression is seen from the token alone. -/
theorem atom?_eq_some_iff {l : Lexeme} {e : Expr} : atom? l = some (.ok e) ↔ Atom l.token e := by
  refine ⟨atom_of_atom?, fun h => ?_⟩
  obtain ⟨t, start, stop⟩ := l
  cases h with
  | decimal h | string h => simp [atom?, h]
  | _ => rfl

/-! ### Phrases -/

/-- The dot before a member. -/
def memberDot (nullSafe : Bool) : Token := if nullSafe then .safeDot else .dot

mutual

/-- The phrases of a level and their trees. -/
inductive Derives : Precedence → List Token → Expr → Prop
  /-- A phrase is one of every weaker level too. -/
  | tighter {p : Precedence} {ts : List Token} {e : Expr} (h : Derives p.next ts e) : Derives p ts e
  | conditional {cs ts fs : List Token} {c t f : Expr} (hc : Derives .or cs c)
    (ht : Derives .ternary ts t) (hf : Derives .ternary fs f) :
    Derives .ternary (cs ++ .question :: (ts ++ .colon :: fs)) (.conditional c t f)
  | elvis {vs fs : List Token} {v f : Expr} (hv : Derives .or vs v) (hf : Derives .ternary fs f) :
    Derives .ternary (vs ++ .elvis :: fs) (.elvis v f)
  /-- On the left of an operator another one of its level may stand, on the right only stronger
  ones. -/
  | binary (op : BinaryOperator) {ls rs : List Token} {l r : Expr} (hl : Derives op.precedence ls l)
    (hr : Derives op.precedence.next rs r) :
    Derives op.precedence (ls ++ .operator op :: rs) (.binary op l r)
  | negate {ts : List Token} {e : Expr} (h : Derives .unary ts e) :
    Derives .unary (.operator .subtract :: ts) (.unary .negate e)
  | not {ts : List Token} {e : Expr} (h : Derives .unary ts e) :
    Derives .unary (.not :: ts) (.unary .not e)
  | property (nullSafe : Bool) (name : String) {ts : List Token} {e : Expr}
    (h : Derives .member ts e) :
    Derives .member (ts ++ [memberDot nullSafe, .identifier name]) (.property e name nullSafe)
  | call (nullSafe : Bool) (name : String) {ts us : List Token} {e : Expr} {es : List Expr}
    (h : Derives .member ts e) (hs : DerivesItems us es) :
    Derives .member
      (ts ++ memberDot nullSafe :: .identifier name :: .leftParen :: (us ++ [.rightParen]))
      (.call e name es nullSafe)
  | index {ts us : List Token} {e i : Expr} (h : Derives .member ts e) (hi : Derives .ternary us i) :
    Derives .member (ts ++ .leftBracket :: (us ++ [.rightBracket])) (.index e i)
  | atom {t : Token} {e : Expr} (h : Atom t e) : Derives .member [t] e
  | parens {ts : List Token} {e : Expr} (h : Derives .ternary ts e) :
    Derives .member (.leftParen :: (ts ++ [.rightParen])) e
  | list {ts : List Token} {es : List Expr} (hs : DerivesItems ts es) :
    Derives .member (.leftBrace :: (ts ++ [.rightBrace])) (.list es)

/-- Any number of phrases of the weakest level, with commas between. -/
inductive DerivesItems : List Token → List Expr → Prop
  | none : DerivesItems [] []
  | last {ts : List Token} {e : Expr} (h : Derives .ternary ts e) : DerivesItems ts [e]
  | cons {ts us : List Token} {e e' : Expr} {es : List Expr} (h : Derives .ternary ts e)
    (hs : DerivesItems us (e' :: es)) : DerivesItems (ts ++ .comma :: us) (e :: e' :: es)

end

mutual

/-- Every literal in a phrase can be read. -/
theorem Derives.readable {p : Precedence} {ts : List Token} {e : Expr} :
    Derives p ts e → ∀ t ∈ ts, t.Readable
  | .tighter h => h.readable
  | .conditional hc ht hf => by
    simpa [Token.Readable, or_imp, forall_and] using ⟨hc.readable, ht.readable, hf.readable⟩
  | .elvis hv hf => by
    simpa [Token.Readable, or_imp, forall_and] using ⟨hv.readable, hf.readable⟩
  | .binary _ hl hr => by
    simpa [Token.Readable, or_imp, forall_and] using ⟨hl.readable, hr.readable⟩
  | .negate h => by simpa [Token.Readable] using h.readable
  | .not h => by simpa [Token.Readable] using h.readable
  | .property nullSafe _ h => by
    cases nullSafe <;>
      simpa [Token.Readable, memberDot, or_imp, forall_and] using h.readable
  | .call nullSafe _ h hs => by
    cases nullSafe <;>
      simpa [Token.Readable, memberDot, or_imp, forall_and] using ⟨h.readable, hs.readable⟩
  | .index h hi => by
    simpa [Token.Readable, or_imp, forall_and] using ⟨h.readable, hi.readable⟩
  | .atom h => by simpa using h.readable
  | .parens h => by simpa [Token.Readable, or_imp, forall_and] using h.readable
  | .list hs => by simpa [Token.Readable, or_imp, forall_and] using hs.readable

theorem DerivesItems.readable {ts : List Token} {es : List Expr} :
    DerivesItems ts es → ∀ t ∈ ts, t.Readable
  | .none => by simp
  | .last h => h.readable
  | .cons h hs => by
    simpa [Token.Readable, or_imp, forall_and] using ⟨h.readable, hs.readable⟩

end

/-! ### The first token -/

/-- A token that a chain of member accesses may begin with. -/
def Token.startsMember : Token → Bool
  | .integer _ | .decimal _ | .string _ | .boolean _ | .null | .identifier _ | .binding _
  | .component _ | .leftParen | .leftBrace => true
  | _ => false

/-- A token that an operand may begin with. -/
def Token.startsOperand : Token → Bool
  | .operator .subtract | .not => true
  | t => t.startsMember

theorem Atom.startsMember {t : Token} {e : Expr} (h : Atom t e) : t.startsMember := by
  cases h <;> rfl

theorem Token.startsOperand_of_startsMember {t : Token} (h : t.startsMember) : t.startsOperand := by
  cases t <;> first | rfl | cases h

theorem Derives.exists_cons {p : Precedence} {ts : List Token} {e : Expr} :
    Derives p ts e → ∃ t us, ts = t :: us ∧ t.startsOperand ∧ (p = .member → t.startsMember)
  -- `member` is the tightest level and its own next, so the second half carries over
  | .tighter h => by
    obtain ⟨t, us, rfl, ht, hm⟩ := h.exists_cons
    exact ⟨t, us, rfl, ht, fun hp => hm (by rw [hp]; rfl)⟩
  | .conditional hc _ _ => by
    obtain ⟨t, us, rfl, ht, -⟩ := hc.exists_cons
    exact ⟨t, _, rfl, ht, by simp⟩
  | .elvis hv _ => by
    obtain ⟨t, us, rfl, ht, -⟩ := hv.exists_cons
    exact ⟨t, _, rfl, ht, by simp⟩
  | .binary op hl _ => by
    obtain ⟨t, us, rfl, ht, -⟩ := hl.exists_cons
    exact ⟨t, _, rfl, ht, by cases op <;> simp [BinaryOperator.precedence]⟩
  | .negate _ => ⟨_, _, rfl, rfl, by simp⟩
  | .not _ => ⟨_, _, rfl, rfl, by simp⟩
  | .property _ _ h | .call _ _ h _ | .index h _ => by
    obtain ⟨t, us, rfl, ht, hm⟩ := h.exists_cons
    exact ⟨t, _, rfl, ht, hm⟩
  | .atom h => ⟨_, _, rfl, Token.startsOperand_of_startsMember h.startsMember, fun _ => h.startsMember⟩
  | .parens _ | .list _ => ⟨_, _, rfl, rfl, fun _ => rfl⟩

theorem Derives.ne_nil {p : Precedence} {ts : List Token} {e : Expr} (h : Derives p ts e) :
    ts ≠ [] := by
  obtain ⟨t, us, rfl, -⟩ := h.exists_cons
  simp

/-! ### Texts -/

/-- The tokens of a text as far as they can be read. -/
def tokensOf (text : String) : List Token := (lexemesOf text).lexemes.map Lexeme.token

/-- The text can be read to its end, and it is a phrase with the given tree. -/
structure StandsFor (text : String) (e : Expr) : Prop where
  whole : (lexemesOf text).failure = none
  readable : ∀ t ∈ tokensOf text, t.Readable
  derives : Derives .ternary (tokensOf text) e

end ExprLang
