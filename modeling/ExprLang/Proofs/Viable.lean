import ExprLang.Proofs.Level

/-!
# Beginnings of phrases

Some tokens are viable if they can be completed to a sentence.  Whatever is open behind the beginning
of a phrase, a bracket, a conditional, an operator without its right operand, can be closed with a name
and the tokens that are missing.

What a literal holds is no matter of the place it stands at.  With other contents, of which its value
can be read, the tokens are a phrase still.

## Main definitions

* `Sentence`, `Viable` — the sentences, and their beginnings.
* `Token.shape` — a token, whatever it holds if it is a literal.
* `Starts p us`, `StartsItems us`, `StartsMore us` — the beginnings of phrases of a level, and of rows
  of them.

## Main results

* `Derives.shape` — what literals hold does not matter for a phrase.
* `Starts.thenBranch`, `Starts.rightOperand`, `StartsItems.arguments`, ... — what an open phrase may be
  a part of.
-/

namespace ExprLang

/-! ### Sentences -/

/-- The token with other contents, if it is a literal that not every contents can be read of. -/
def Token.shape : Token → Token
  | .decimal _ => .decimal "0.0"
  | .string _ => .string ""
  | t => t

theorem Token.shape_shape (t : Token) : t.shape.shape = t.shape := by cases t <;> rfl

theorem map_shape_map_shape (ts : List Token) :
    (ts.map Token.shape).map Token.shape = ts.map Token.shape := by
  rw [List.map_map]
  exact List.map_congr_left fun t _ => t.shape_shape

/-- The tokens are an expression. -/
def Sentence (ts : List Token) : Prop := ∃ e, Derives .ternary ts e

/-- Some tokens go on with the given ones to a sentence. -/
def Viable (ts : List Token) : Prop := ∃ us, Sentence (ts ++ us)

theorem atom_shape_decimal (digits : String) : ∃ e, Atom (Token.decimal digits).shape e := by
  have hread : (Decimal.read? "0.0".toList).isSome := by decide +kernel
  obtain ⟨d, hd⟩ := Option.isSome_iff_exists.mp hread
  exact ⟨_, .decimal hd⟩

theorem atom_shape_string (body : String) : ∃ e, Atom (Token.string body).shape e :=
  ⟨.literal (.string (String.ofList [])), .string rfl⟩

theorem Atom.shape {t : Token} {e : Expr} (h : Atom t e) : ∃ e', Atom t.shape e' := by
  cases h with
  | decimal => exact atom_shape_decimal _
  | string => exact atom_shape_string _
  | integer n => exact ⟨_, .integer n⟩
  | boolean b => exact ⟨_, .boolean b⟩
  | null => exact ⟨_, .null⟩
  | identifier name => exact ⟨_, .identifier name⟩
  | binding name => exact ⟨_, .binding name⟩
  | component name => exact ⟨_, .component name⟩

theorem shape_memberDot (nullSafe : Bool) : (memberDot nullSafe).shape = memberDot nullSafe := by
  cases nullSafe <;> rfl

mutual

/-- With other literals a phrase is one still. -/
theorem Derives.shape {p : Precedence} {ts : List Token} {e : Expr} :
    Derives p ts e → ∃ e', Derives p (ts.map Token.shape) e'
  | .tighter h => by
    obtain ⟨e', h'⟩ := h.shape
    exact ⟨e', .tighter h'⟩
  | .conditional hc ht hf => by
    obtain ⟨c', hc'⟩ := hc.shape
    obtain ⟨t', ht'⟩ := ht.shape
    obtain ⟨f', hf'⟩ := hf.shape
    simp only [List.map_append, List.map_cons]
    exact ⟨_, .conditional hc' ht' hf'⟩
  | .elvis hv hf => by
    obtain ⟨v', hv'⟩ := hv.shape
    obtain ⟨f', hf'⟩ := hf.shape
    simp only [List.map_append, List.map_cons]
    exact ⟨_, .elvis hv' hf'⟩
  | .binary op hl hr => by
    obtain ⟨l', hl'⟩ := hl.shape
    obtain ⟨r', hr'⟩ := hr.shape
    simp only [List.map_append, List.map_cons]
    exact ⟨_, .binary op hl' hr'⟩
  | .negate h => by
    obtain ⟨e', h'⟩ := h.shape
    exact ⟨_, .negate h'⟩
  | .not h => by
    obtain ⟨e', h'⟩ := h.shape
    exact ⟨_, .not h'⟩
  | .property nullSafe name h => by
    obtain ⟨e', h'⟩ := h.shape
    simp only [List.map_append, List.map_cons, List.map_nil, shape_memberDot]
    exact ⟨_, .property nullSafe name h'⟩
  | .call nullSafe name h hs => by
    obtain ⟨e', h'⟩ := h.shape
    obtain ⟨es', hs', -⟩ := hs.shape
    simp only [List.map_append, List.map_cons, List.map_nil, shape_memberDot]
    exact ⟨_, .call nullSafe name h' hs'⟩
  | .index h hi => by
    obtain ⟨e', h'⟩ := h.shape
    obtain ⟨i', hi'⟩ := hi.shape
    simp only [List.map_append, List.map_cons, List.map_nil]
    exact ⟨_, .index h' hi'⟩
  | .atom h => by
    obtain ⟨e', h'⟩ := h.shape
    exact ⟨e', .atom h'⟩
  | .parens h => by
    obtain ⟨e', h'⟩ := h.shape
    simp only [List.map_append, List.map_cons, List.map_nil]
    exact ⟨e', .parens h'⟩
  | .list hs => by
    obtain ⟨es', hs', -⟩ := hs.shape
    simp only [List.map_append, List.map_cons, List.map_nil]
    exact ⟨_, .list hs'⟩

theorem DerivesItems.shape {ts : List Token} {es : List Expr} :
    DerivesItems ts es →
      ∃ es', DerivesItems (ts.map Token.shape) es' ∧ es'.length = es.length
  | .none => ⟨[], .none, rfl⟩
  | .last h => by
    obtain ⟨e', h'⟩ := h.shape
    exact ⟨[e'], .last h', rfl⟩
  | .cons h hs => by
    obtain ⟨e', h'⟩ := h.shape
    obtain ⟨es', hs', hlength⟩ := hs.shape
    obtain ⟨e'', es'', rfl⟩ := List.exists_cons_of_length_eq_add_one hlength
    simp only [List.map_append, List.map_cons]
    exact ⟨_, .cons h' hs', congrArg Nat.succ hlength⟩

end

theorem Sentence.shape {ts : List Token} (h : Sentence ts) : Sentence (ts.map Token.shape) := by
  obtain ⟨e, he⟩ := h
  exact he.shape

theorem Viable.shape {ts : List Token} (h : Viable ts) : Viable (ts.map Token.shape) := by
  obtain ⟨us, hus⟩ := h
  exact ⟨us.map Token.shape, by simpa using hus.shape⟩

/-! ### Beginnings of phrases -/

/-- The tokens are the beginning of a phrase of level `p`. -/
def Starts (p : Precedence) (us : List Token) : Prop := ∃ vs e, Derives p (us ++ vs) e

/-- The tokens are the beginning of phrases with commas between, of which there may be none. -/
def StartsItems (us : List Token) : Prop := ∃ vs es, DerivesItems (us ++ vs) es

/-- The tokens are the beginning of one phrase at least, with commas between them. -/
def StartsMore (us : List Token) : Prop := ∃ vs e es, DerivesItems (us ++ vs) (e :: es)

theorem Starts.viable {us : List Token} (h : Starts .ternary us) : Viable us := h

section

variable {p q : Precedence} {ts us vs : List Token} {e c t v : Expr}

/-- A name is a phrase of every level. -/
theorem derives_name (p : Precedence) : Derives p [.identifier "x"] (.identifier "x") :=
  Derives.weaken (q := .member) (.atom (.identifier "x")) p.level_le_nine

theorem starts_nil (p : Precedence) : Starts p [] := ⟨_, _, derives_name p⟩

theorem Derives.starts (h : Derives p ts e) : Starts p ts := ⟨[], e, by rwa [List.append_nil]⟩

theorem Starts.weaken (h : Starts q us) (hpq : p.level ≤ q.level) : Starts p us := by
  obtain ⟨vs, e, he⟩ := h
  exact ⟨vs, e, he.weaken hpq⟩

theorem Starts.thenBranch (hc : Derives .or ts c) (h : Starts .ternary us) :
    Starts .ternary (ts ++ .question :: us) := by
  obtain ⟨vs, t, ht⟩ := h
  refine ⟨vs ++ .colon :: [.identifier "x"], .conditional c t (.identifier "x"), ?_⟩
  simpa using Derives.conditional hc ht (derives_name .ternary)

theorem Starts.elseBranch (hc : Derives .or ts c) (ht : Derives .ternary us t)
    (h : Starts .ternary vs) : Starts .ternary (ts ++ .question :: (us ++ .colon :: vs)) := by
  obtain ⟨ws, f, hf⟩ := h
  exact ⟨ws, _, by simpa using Derives.conditional hc ht hf⟩

theorem Starts.fallback (hv : Derives .or ts v) (h : Starts .ternary us) :
    Starts .ternary (ts ++ .elvis :: us) := by
  obtain ⟨vs, f, hf⟩ := h
  exact ⟨vs, _, by simpa using Derives.elvis hv hf⟩

theorem Starts.rightOperand {op : BinaryOperator} (hl : Derives op.precedence ts e)
    (h : Starts op.precedence.next us) : Starts op.precedence (ts ++ .operator op :: us) := by
  obtain ⟨vs, r, hr⟩ := h
  exact ⟨vs, _, by simpa using Derives.binary op hl hr⟩

theorem Starts.negate (h : Starts .unary us) : Starts .unary (.operator .subtract :: us) := by
  obtain ⟨vs, e, he⟩ := h
  exact ⟨vs, _, .negate he⟩

theorem Starts.not (h : Starts .unary us) : Starts .unary (.not :: us) := by
  obtain ⟨vs, e, he⟩ := h
  exact ⟨vs, _, .not he⟩

theorem Derives.starts_member (nullSafe : Bool) (h : Derives .member ts e) :
    Starts .member (ts ++ [memberDot nullSafe]) :=
  ⟨[.identifier "x"], _, by simpa using Derives.property nullSafe "x" h⟩

theorem StartsItems.arguments (nullSafe : Bool) (name : String) (h : Derives .member ts e)
    (hs : StartsItems us) :
    Starts .member (ts ++ memberDot nullSafe :: .identifier name :: .leftParen :: us) := by
  obtain ⟨vs, es, hes⟩ := hs
  exact ⟨vs ++ [.rightParen], _, by simpa using Derives.call nullSafe name h hes⟩

theorem Starts.position (h : Derives .member ts e) (hi : Starts .ternary us) :
    Starts .member (ts ++ .leftBracket :: us) := by
  obtain ⟨vs, i, hi⟩ := hi
  exact ⟨vs ++ [.rightBracket], _, by simpa using Derives.index h hi⟩

theorem Starts.parens (h : Starts .ternary us) : Starts .member (.leftParen :: us) := by
  obtain ⟨vs, e, he⟩ := h
  exact ⟨vs ++ [.rightParen], e, by simpa using Derives.parens he⟩

theorem StartsItems.list (hs : StartsItems us) : Starts .member (.leftBrace :: us) := by
  obtain ⟨vs, es, hes⟩ := hs
  exact ⟨vs ++ [.rightBrace], _, by simpa using Derives.list hes⟩

theorem StartsMore.items (h : StartsMore us) : StartsItems us := by
  obtain ⟨vs, e, es, hes⟩ := h
  exact ⟨vs, _, hes⟩

theorem Starts.more (h : Starts .ternary us) : StartsMore us := by
  obtain ⟨vs, e, he⟩ := h
  exact ⟨vs, e, [], .last he⟩

theorem StartsMore.cons (h : Derives .ternary ts e) (hs : StartsMore us) :
    StartsMore (ts ++ .comma :: us) := by
  obtain ⟨vs, e', es, hes⟩ := hs
  exact ⟨vs, e, e' :: es, by simpa using DerivesItems.cons h hes⟩

end

end ExprLang
