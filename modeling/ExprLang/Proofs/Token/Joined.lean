import ExprLang.Proofs.Token.Respelling

/-!
# Texts put together

A text can be written behind another one without a blank between them, if what it begins with is no part
of the last token of the other: then the two are read one after the other.  Only the last token matters,
because every other one has the same character behind it as before.  A closing parenthesis is a part of
no other token, so a text in parentheses is read as the text between two more tokens.

## Main results

* `ReadAs.append` — **texts put together are read one after the other**.
* `ReadAs.parens` — what is read in parentheses.
* `Cursor.exists_reads_append` — the place where the second text begins.
-/

namespace ExprLang

section

variable {c d : Char} {cs ds piece tail more : List Char} {t : Token} {ts us : List Token}

/-! ### What ends the last token -/

/-- A token in front of others ends as it did before. -/
theorem endsBefore_append (hne : tail ≠ []) (hdigit : ∀ d ∈ more.head?, d.isDigit = false) (c : Char) :
    EndsBefore c tail (tail ++ more) := by
  obtain ⟨a, rest, rfl⟩ := List.exists_cons_of_ne_nil hne
  refine { digit := id, name := id, symbol := id, point := fun hnone => ?_ }
  rintro ⟨d, rest', heq, hd⟩
  rw [List.cons_append, List.cons.injEq] at heq
  obtain ⟨rfl, heq⟩ := heq
  cases rest with
  | nil =>
    rw [List.nil_append] at heq
    rw [hdigit d (heq ▸ rfl)] at hd
    cases hd
  | cons r rs =>
    rw [List.cons_append, List.cons.injEq] at heq
    obtain ⟨rfl, -⟩ := heq
    exact hnone ⟨r, rs, rfl, hd⟩

/-- At the end of a text a token is followed by what is no part of it. -/
theorem endsBefore_nil (hname : ∀ d ∈ more.head?, isNameChar d = false)
    (hpoint : ¬ ∃ d rest, more = '.' :: d :: rest ∧ d.isDigit)
    (hsymbol : ∀ d ∈ more.head?, symbolOfTwo? c d = none) : EndsBefore c [] more where
  digit _ d hd := not_isDigit_of_not_isNameChar (hname d hd)
  point _ := hpoint
  name _ := hname
  symbol _ d hd := by rw [hsymbol d hd, Option.isSome_none]

/-- A parenthesis is a part of no other token. -/
theorem Token.Leads.before_paren (h : t.Leads piece []) (hd : d = '(' ∨ d = ')') (more : List Char) :
    t.Leads piece (d :: more) := by
  refine h.of_endsBefore fun c _ => endsBefore_nil ?_ ?_ ?_
  · rintro _ ⟨⟩
    rcases hd with rfl | rfl <;> rfl
  · rintro ⟨_, rest, heq, -⟩
    cases heq
    rcases hd with hd | hd <;> cases hd
  · rintro _ ⟨⟩
    unfold symbolOfTwo?
    split <;> simp_all

/-- The tokens that begin with a question mark. -/
theorem Token.Leads.of_questionMark (h : t.Leads ('?' :: cs) tail) :
    t = .question ∨ t = .elvis ∨ t = .safeDot := by
  obtain ⟨c, ds, hcons, hscan⟩ := h
  obtain ⟨rfl, rfl⟩ := List.cons.inj hcons
  have hsymbol : scanSymbol 0 '?' (cs ++ tail) = (.ok t, cs.length + 1) := hscan 0
  unfold scanSymbol at hsymbol
  split at hsymbol
  · next u htwo =>
    obtain ⟨d, -, htwo⟩ := Option.bind_eq_some_iff.mp htwo
    obtain rfl : u = t := Except.ok.inj (Prod.mk.inj hsymbol).1
    unfold symbolOfTwo? at htwo
    split at htwo <;> simp_all
  · exact .inl (Except.ok.inj (Prod.mk.inj hsymbol).1).symm

/-- Neither is a point without digits behind it, except behind a question mark. -/
theorem Token.Leads.before_point (h : t.Leads piece []) (hquestion : ∀ c ∈ piece.head?, c ≠ '?')
    (hd : d.isDigit = false) (more : List Char) : t.Leads piece ('.' :: d :: more) := by
  refine h.of_endsBefore fun c hc => endsBefore_nil ?_ ?_ ?_
  · rintro d ⟨⟩
    rfl
  · rintro ⟨d', rest, heq, hdigit⟩
    cases heq
    rw [hd] at hdigit
    cases hdigit
  · have hne := hquestion c hc
    rintro _ ⟨⟩
    unfold symbolOfTwo?
    split <;> simp_all

/-- A parenthesis is read whatever is behind it. -/
theorem leads_leftParen (tail : List Char) : Token.leftParen.Leads ['('] tail := by
  refine leads_of_scanToken 0 '(' [] ?_
  cases tail <;> rfl

/-! ### Texts put together -/

/-- There is no token in nothing. -/
theorem ReadAs.eq_nil (h : ReadAs [] ts) : ts = [] := by
  generalize hcs : ([] : List Char) = cs at h
  cases h with
  | finished => rfl
  | token _ ht _ =>
    obtain ⟨c, p, rfl, -⟩ := ht
    simp at hcs

/-- The other text begins with what ends the last of the tokens. -/
def EndsLast (ts : List Token) (more : List Char) : Prop :=
  (∀ d ∈ more.head?, d.isDigit = false) ∧
    ∀ t ∈ ts.getLast?, ∀ piece, t.Leads piece [] → t.Leads piece more

theorem EndsLast.of_cons (h : EndsLast (t :: ts) more) : EndsLast ts more := by
  refine ⟨h.1, fun u hu => h.2 u ?_⟩
  rw [List.getLast?_cons, Option.mem_def.mp hu]
  rfl

/-- Every token in front of the other text is read as it was. -/
theorem EndsLast.leads (h : EndsLast (t :: ts) more) (ht : t.Leads piece tail) (hts : ReadAs tail ts) :
    t.Leads piece (tail ++ more) := by
  cases tail with
  | nil =>
    obtain rfl := hts.eq_nil
    exact h.2 t rfl piece ht
  | cons a rest => exact ht.of_endsBefore fun c _ => endsBefore_append (List.cons_ne_nil a rest) h.1 c

/-- **Texts put together are read one after the other**, if what the second one begins with ends the last
token of the first. -/
theorem ReadAs.append (h : ReadAs cs ts) (hmore : ReadAs more us) (hlast : EndsLast ts more) :
    ReadAs (cs ++ more) (ts ++ us) := by
  induction h with
  | finished hgap => exact hmore.skip hgap
  | token hgap ht hts ih =>
    rw [List.append_assoc, List.append_assoc, List.cons_append]
    exact .token hgap (hlast.leads ht hts) (ih hlast.of_cons)

theorem endsLast_rightParen (ts : List Token) (more : List Char) : EndsLast ts (')' :: more) := by
  refine ⟨?_, fun t _ piece ht => ht.before_paren (.inr rfl) more⟩
  rintro d ⟨⟩
  rfl

theorem leads_rightParen (tail : List Char) : Token.rightParen.Leads [')'] tail := by
  refine leads_of_scanToken 0 ')' [] ?_
  cases tail <;> rfl

/-- A text in parentheses is read as the text between two more tokens. -/
theorem ReadAs.parens (h : ReadAs cs ts) (hmore : ReadAs more us) :
    ReadAs ('(' :: (cs ++ ')' :: more)) (.leftParen :: (ts ++ .rightParen :: us)) := by
  have hnone : ([] : List Char).all isBlank := rfl
  have hclose : ReadAs (')' :: more) (.rightParen :: us) := .token hnone (leads_rightParen more) hmore
  exact .token hnone (leads_leftParen _) (h.append hclose (endsLast_rightParen ts more))

/-! ### Places -/

namespace Cursor

variable {c c' after : Cursor} {l : Lexeme} {ls ms : List Lexeme}

theorem Reads.append (h : c.Reads ls after) (h' : after.Reads ms c') : c.Reads (ls ++ ms) c' := by
  induction h with
  | none => exact h'
  | next hnext _ ih => exact .next hnext (ih h')

/-- What was read is the front of all that is read. -/
theorem Reads.lexemes_eq (h : c.Reads ls c') :
    c.lexemes = { c'.lexemes with lexemes := ls ++ c'.lexemes.lexemes } := by
  induction h with
  | none => rfl
  | next hnext _ ih => rw [lexemes_of_lexeme hnext, ih, List.cons_append]

/-- A token is read where it is. -/
theorem next_of_leads (h : t.Leads piece tail) (hc : c.skipBlanks.rest = piece ++ tail) :
    c.next = .lexeme ⟨t, c.skipBlanks.offset, c.skipBlanks.offset + byteLength piece⟩
      ⟨tail, c.skipBlanks.offset + byteLength piece⟩ := by
  obtain ⟨ch, cs, rfl, hscan⟩ := h
  have hafter : c.skipBlanks.advance (cs.length + 1) =
      ⟨tail, c.skipBlanks.offset + byteLength (ch :: cs)⟩ := by
    have hlength : cs.length + 1 = (ch :: cs).length := rfl
    rw [advance, hc, hlength, List.drop_left, List.take_left]
  rw [next_of_token hc (hscan _), hafter]

/-- Behind the tokens of the first text the second one begins. -/
theorem exists_reads_append (h : ReadAs cs ts) (hc : c.rest = cs ++ more)
    (hblank : ∀ d ∈ more.head?, isBlank d = false) (hlast : EndsLast ts more) :
    ∃ ls c', c.Reads ls c' ∧ ls.map Lexeme.token = ts ∧
      c'.skipBlanks = ⟨more, c.offset + byteLength cs⟩ := by
  -- along the tokens: only the last one has the appended text behind it
  induction h generalizing c with
  | @finished gap hgap =>
    refine ⟨[], c, .none c, rfl, ?_⟩
    have hblanks := List.all_eq_true.mp hgap
    rw [skipBlanks, hc, dropWhile_append_eq hblanks hblank,
      takeWhile_append_eq_iff.mpr ⟨hblanks, hblank⟩]
  | @token gap piece tail t ts hgap ht hts ih =>
    have hblanks := List.all_eq_true.mp hgap
    have hleads := hlast.leads ht hts
    rw [List.append_assoc, List.append_assoc] at hc
    have hskip : c.skipBlanks = ⟨piece ++ (tail ++ more), c.offset + byteLength gap⟩ := by
      rw [skipBlanks, hc, dropWhile_append_eq hblanks hleads.head_not_isBlank,
        takeWhile_append_eq_iff.mpr ⟨hblanks, hleads.head_not_isBlank⟩]
    have hnext := next_of_leads hleads (congrArg Cursor.rest hskip)
    obtain ⟨ls, c', hreads, htokens, hend⟩ :=
      @ih ⟨tail ++ more, c.skipBlanks.offset + byteLength piece⟩ rfl hlast.of_cons
    refine ⟨_ :: ls, c', .next hnext hreads, congrArg (t :: ·) htokens, ?_⟩
    rw [hend, hskip]
    simp only [byteLength_append, Nat.add_assoc]

end Cursor

end

end ExprLang
