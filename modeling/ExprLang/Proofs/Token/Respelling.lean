import ExprLang.Proofs.Parser.Places
import ExprLang.Proofs.Token.Spacing

/-!
# Tokens written once more

The tokens of a text can be written again with other blanks between them, and in other spellings, and the
text is read as the same tokens: where a blank or nothing is behind a token, only the token itself says
what it is read as, and where a token stands as it did before, what is behind it looks as it did.  In
particular the texts that tokens are shown as can be written one after the other with spaces between
them; only a string that was written between double quotes can have a quote in it that cannot stand
between single ones.  The tree of a text goes by its tokens, so it is the same tree for all of them.

## Main definitions

* `ReadAs cs ts` — the characters are read to their end, as the tokens.
* `Token.WrittenAs` — the spellings of a token that can stand by themselves.
* `Respaced ts cs cs'` — the tokens of `cs` written once more.
* `shown` — the texts of tokens, with spaces between them.
* `ReadsLike text' text` — both texts are read as the same tokens, and make the same tree.

## Main results

* `readAs_iff` — what the reading of a text comes to, without places.
* `Token.Leads.of_writtenAs` — a token is read off each of its spellings.
* `Respaced.readAs`, `readAs_shown` — what is read when tokens are written once more.
* `tokens_read_back` — **tokens are read back from their texts**, and make the same tree.

## References

`SPEC_FULL.md`, 10.1; the way the reference's `Token` is displayed.
-/

namespace ExprLang

section

variable {cs cs' piece word tail tail' : List Char} {t : Token} {ts : List Token}

/-! ### Reading without places -/

/-- The characters are read to their end, as the tokens. -/
inductive ReadAs : List Char → List Token → Prop
  | finished {gap : List Char} (hgap : gap.all isBlank) : ReadAs gap []
  | token {gap piece tail : List Char} {t : Token} {ts : List Token} (hgap : gap.all isBlank)
    (ht : t.Leads piece tail) (hts : ReadAs tail ts) : ReadAs (gap ++ (piece ++ tail)) (t :: ts)

namespace Cursor

variable {c after : Cursor} {l : Lexeme} {ts : List Token}

/-- What the next token is read off. -/
theorem exists_leads (h : c.next = .lexeme l after) : ∃ gap piece, gap.all isBlank ∧
    c.rest = gap ++ (piece ++ after.rest) ∧ l.token.Leads piece after.rest := by
  have hcut : c.rest.takeWhile isBlank ++ c.skipBlanks.rest = c.rest :=
    List.takeWhile_append_dropWhile
  cases hrest : c.skipBlanks.rest with
  | nil =>
    rw [next_of_end hrest] at h
    cases h
  | cons ch rest =>
    rcases hscan : scanToken c.skipBlanks.offset ch rest with ⟨e | t, n⟩
    · rw [next_of_error hrest hscan] at h
      cases h
    · rw [next_of_token hrest hscan] at h
      cases h
      obtain ⟨piece, tail, hpiece, rfl, hleads⟩ := ExprLang.exists_leads hscan
      rw [hpiece] at hrest
      have hafter : (c.skipBlanks.advance piece.length).rest = tail := by
        rw [advance, hrest, List.drop_left]
      rw [hafter]
      exact ⟨_, piece, List.all_takeWhile, by rw [← hrest, hcut], hleads⟩

/-- Reading goes through all the tokens. -/
theorem lexemes_of_readAs (h : ReadAs cs ts) (hc : c.rest = cs) :
    c.lexemes.failure = none ∧ c.lexemes.lexemes.map Lexeme.token = ts := by
  induction h generalizing c with
  | finished hgap =>
    have hend : c.skipBlanks.rest = [] := by
      rw [skipBlanks, hc]
      exact List.dropWhile_eq_nil_iff.mpr (List.all_eq_true.mp hgap)
    rw [lexemes_of_finished (next_of_end hend)]
    exact ⟨rfl, rfl⟩
  | @token gap piece tail t ts hgap ht _ ih =>
    have hrest : c.skipBlanks.rest = piece ++ tail := by
      rw [skipBlanks, hc]
      exact dropWhile_append_eq (List.all_eq_true.mp hgap) ht.head_not_isBlank
    -- the scan takes the piece whatever place the cursor is at
    obtain ⟨ch, cs, rfl, hscan⟩ := ht
    rw [lexemes_of_lexeme (next_of_token hrest (hscan _))]
    have hafter : (c.skipBlanks.advance (ch :: cs).length).rest = tail := by
      rw [advance, hrest, List.drop_left]
    obtain ⟨hwhole, htokens⟩ := ih hafter
    exact ⟨hwhole, congrArg (t :: ·) htokens⟩

/-- What is read to its end is read as the tokens. -/
theorem readAs_lexemes (c : Cursor) (hwhole : c.lexemes.failure = none) :
    ReadAs c.rest (c.lexemes.lexemes.map Lexeme.token) := by
  fun_induction Cursor.lexemes c with
  | case1 c after h =>
    have hsteps := c.next_steps
    rw [h] at hsteps
    cases hsteps with
    | finished hblank _ => exact .finished hblank
  | case2 c e after h => cases hwhole
  | case3 c l after h r ih =>
    obtain ⟨gap, piece, hgap, hrest, hleads⟩ := exists_leads h
    rw [hrest]
    exact .token hgap hleads (ih hwhole)

end Cursor

/-- What the reading of a text comes to. -/
theorem readAs_iff {text : String} {ts : List Token} :
    ReadAs text.toList ts ↔ (lexemesOf text).failure = none ∧ tokensOf text = ts := by
  constructor
  · exact fun h => Cursor.lexemes_of_readAs h rfl
  · rintro ⟨hwhole, rfl⟩
    exact (Cursor.start text).readAs_lexemes hwhole

/-! ### Spellings -/

/-- A spelling of the token that can stand by itself: no quote in a string is one that ends it. -/
structure Token.WrittenAs (t : Token) (word : List Char) : Prop where
  spells : t.Spells word
  closed : ∀ body quote, t = .string body → word = quote :: (body.toList ++ [quote]) →
    hasBare quote body.toList = false

/-- A connective is read off a word and off a symbol. -/
theorem leads_of_spells_connective (h : t = .operator .and ∨ t = .operator .or ∨ t = .not)
    (hword : t.Spells word) : t.Leads word [] := by
  rcases h with rfl | rfl | rfl <;> rcases hword with rfl | rfl
  · exact leads_of_scanToken 0 'a' ['n', 'd'] rfl
  · exact leads_of_scanToken 0 '&' ['&'] rfl
  · exact leads_of_scanToken 0 'o' ['r'] rfl
  · exact leads_of_scanToken 0 '|' ['|'] rfl
  · exact leads_of_scanToken 0 'n' ['o', 't'] rfl
  · exact leads_of_scanToken 0 '!' [] rfl

/-- An integer is read off its digits, also with zeros in front. -/
theorem leads_of_spells_integer {n : Int64} (hword : (Token.integer n).Spells word) :
    (Token.integer n).Leads word [] := by
  obtain ⟨hall, hread⟩ := hword
  have hdigits := List.all_eq_true.mp hall
  have hnumeral : Numeral [] (.integer n) word := .integer hdigits hread (by simp) (by simp)
  cases word with
  | nil => cases hread
  | cons c cs =>
    have hscan := hnumeral.scanNumber 0
    refine leads_of_scanToken 0 c cs ?_
    rw [scanToken, if_pos (hdigits c List.mem_cons_self)]
    exact hscan

/-- What a string is read off: neither a quote in it ends it, nor does it end with a backslash that takes
the quote with it. -/
theorem Token.Leads.exists_quote {body : String} (h : (Token.string body).Leads piece tail) :
    ∃ quote, (quote = '\'' ∨ quote = '"') ∧ piece = quote :: (body.toList ++ [quote]) ∧
      hasBare quote body.toList = false ∧ dangles body.toList = false := by
  obtain ⟨quote, hquote, hpiece⟩ := h.spells
  obtain ⟨c, cs, rfl, hscan⟩ := h
  obtain ⟨rfl, rfl⟩ := List.cons.inj hpiece
  have hdigit : ¬ c.isDigit := by rcases hquote with rfl | rfl <;> decide
  have hstring := hscan 0
  rw [scanToken, if_neg hdigit, if_pos hquote] at hstring
  obtain ⟨inner, -, hinner, hbare, hdangles⟩ := exists_of_scanString hstring
  cases hinner
  rw [String.toList_ofList]
  exact ⟨c, hquote, rfl, hbare, hdangles⟩

theorem Token.Leads.not_dangles {body : String} (h : (Token.string body).Leads piece tail) :
    dangles body.toList = false := by
  obtain ⟨_, _, _, _, hdangles⟩ := h.exists_quote
  exact hdangles

/-- A string is read off what was between the quotes, with quotes of the other kind too unless there is a
bare one of them. -/
theorem leads_of_spells_string {body : String} {quote : Char} (hquote : quote = '\'' ∨ quote = '"')
    (hbare : hasBare quote body.toList = false) (hdangles : dangles body.toList = false) :
    (Token.string body).Leads (quote :: (body.toList ++ [quote])) [] := by
  have hdigit : ¬ quote.isDigit := by rcases hquote with rfl | rfl <;> decide
  refine leads_of_scanToken 0 quote _ ?_
  rw [scanToken, if_neg hdigit, if_pos hquote, scanString_append hquote hbare hdangles,
    String.ofList_toList]

/-- **A token that is read is read off each of its spellings.** -/
theorem Token.Leads.of_writtenAs (h : t.Leads piece tail) (hword : t.WrittenAs word) :
    t.Leads word [] := by
  -- most tokens have a single spelling, which is the one that was read
  have hsame : piece = word → t.Leads word [] := by
    intro heq
    rw [← heq]
    exact h.of_clear clear_nil
  have hpiece := h.spells
  cases t with
  | integer n => exact leads_of_spells_integer hword.spells
  | string body =>
    obtain ⟨quote, hquote, rfl⟩ := hword.spells
    exact leads_of_spells_string hquote (hword.closed body quote rfl rfl) h.not_dangles
  | operator op =>
    cases op with
    | and => exact leads_of_spells_connective (.inl rfl) hword.spells
    | or => exact leads_of_spells_connective (.inr (.inl rfl)) hword.spells
    | _ => exact hsame (hpiece.trans hword.spells.symm)
  | not => exact leads_of_spells_connective (.inr (.inr rfl)) hword.spells
  | _ => exact hsame (hpiece.trans hword.spells.symm)

/-! ### The texts that tokens are shown as -/

/-- Digits without a sign are no negative number. -/
theorem exists_natCast_of_read? {n : Int64} (hdigits : ∀ c ∈ cs, c.isDigit)
    (hread : Integer.read? cs = some n) : ∃ m : ℕ, n.toInt = m := by
  rw [Integer.read?, readInt?_of_isDigit hdigits, Option.bind_eq_some_iff] at hread
  obtain ⟨m, hm, hn⟩ := hread
  obtain ⟨k, -, rfl⟩ := Option.map_eq_some_iff.mp hm
  exact ⟨k, Integer.ofInt?_eq_some_iff.mp hn⟩

/-- The digits of an integer that is not negative are a spelling of it. -/
theorem spells_text_integer {n : Int64} {m : ℕ} (hn : n.toInt = m) :
    (Token.integer n).Spells (Integer.text n).toList := by
  have htext : (Integer.text n).toList = Nat.toDigits 10 m := by
    rw [Integer.text, hn, intText, if_neg (by omega), String.toList_ofList, Int.natAbs_natCast]
  rw [htext]
  refine ⟨List.all_eq_true.mpr fun c hc => ?_, ?_⟩
  · exact Nat.isDigit_of_mem_toDigits (by decide) (by decide) hc
  · rw [Integer.read?_toDigits, Integer.ofInt?_eq_some_iff.mpr hn]

/-- The text of a token that is read is a spelling of it, unless it is that of a string with a bare single
quote. -/
theorem Token.Leads.writtenAs_text (h : t.Leads piece tail)
    (hbare : ∀ body, t = .string body → hasBare '\'' body.toList = false) :
    t.WrittenAs t.text.toList where
  spells := by
    -- the display text spells the token again; only a string needs its body free of quotes
    cases t with
    | integer n =>
      obtain ⟨hall, hread⟩ := h.spells
      obtain ⟨m, hm⟩ := exists_natCast_of_read? (List.all_eq_true.mp hall) hread
      exact spells_text_integer hm
    | string body =>
      refine ⟨'\'', .inl rfl, ?_⟩
      rw [text, String.toList_append, String.toList_append]
      rfl
    | binding name | component name => exact String.toList_append
    | operator op => cases op <;> first | rfl | exact .inl rfl
    | not => exact .inl rfl
    | _ => rfl
  closed body quote ht hword := by
    subst ht
    rw [text, String.toList_append, String.toList_append] at hword
    obtain rfl : '\'' = quote := (List.cons.inj hword).1
    exact hbare body rfl

/-- The texts of tokens, with a space between each two. -/
def shown (ts : List Token) : String := " ".intercalate (ts.map Token.text)

theorem toList_shown (ts : List Token) :
    (shown ts).toList = [' '].intercalate (ts.map fun t => t.text.toList) := by
  rw [shown, String.toList_intercalate, List.map_map]
  rfl

/-- Blanks in front are not read. -/
theorem ReadAs.skip {gap : List Char} (hgap : gap.all isBlank) (h : ReadAs cs ts) :
    ReadAs (gap ++ cs) ts := by
  cases h with
  | finished hgap' => exact .finished (by rw [List.all_append, hgap, hgap', Bool.and_self])
  | token hgap' ht hts =>
    rw [← List.append_assoc]
    exact .token (by rw [List.all_append, hgap, hgap', Bool.and_self]) ht hts

/-- A token is read before others that are apart from it. -/
theorem ReadAs.cons (ht : t.Leads word []) (h : ReadAs cs ts) (hclear : Clear cs) :
    ReadAs (word ++ cs) (t :: ts) := by
  have hnone : ([] : List Char).all isBlank := rfl
  have hread := ReadAs.token hnone (ht.of_clear hclear) h
  exact hread

/-- Tokens are read from their texts, with a space behind each but the last. -/
theorem readAs_shown (h : ∀ t ∈ ts, t.Leads t.text.toList []) : ReadAs (shown ts).toList ts := by
  rw [toList_shown]
  induction ts with
  | nil => exact .finished rfl
  | cons t ts ih =>
    obtain ⟨ht, hts⟩ := List.forall_mem_cons.mp h
    cases ts with
    | nil =>
      rw [List.map_singleton, List.intercalate_singleton, ← List.append_nil t.text.toList]
      exact .cons ht (.finished rfl) clear_nil
    | cons u ts =>
      rw [List.map_cons, List.map_cons, List.intercalate_cons_cons, List.append_assoc]
      have hspace : [' '].all isBlank := rfl
      exact .cons ht ((ih hts).skip hspace) (clear_cons rfl)

/-- Every token is read off some piece. -/
theorem ReadAs.exists_leads (h : ReadAs cs ts) : ∀ t ∈ ts, ∃ piece tail, t.Leads piece tail := by
  induction h with
  | finished => simp
  | token _ ht _ ih => exact List.forall_mem_cons.mpr ⟨⟨_, _, ht⟩, ih⟩

/-! ### Tokens written once more -/

/-- The tokens of `cs` are written once more as `cs'`, with any blanks before each of them and at the end.
A token is spelled in any way if a blank is behind it, or nothing.  Without a blank it stands as it did
before, and before the same character. -/
inductive Respaced : List Token → List Char → List Char → Prop
  | finished {gap gap' : List Char} (hgap : gap.all isBlank) (hgap' : gap'.all isBlank) :
    Respaced [] gap gap'
  | apart {t : Token} {ts : List Token} {gap gap' piece word tail tail' : List Char}
    (hgap : gap.all isBlank) (hgap' : gap'.all isBlank) (ht : t.Leads piece tail)
    (hword : t.WrittenAs word) (hclear : Clear tail') (hts : Respaced ts tail tail') :
    Respaced (t :: ts) (gap ++ (piece ++ tail)) (gap' ++ (word ++ tail'))
  | joined {t : Token} {ts : List Token} {gap gap' piece tail tail' : List Char}
    (hgap : gap.all isBlank) (hgap' : gap'.all isBlank) (ht : t.Leads piece tail)
    (hhead : tail'.head? = tail.head?) (hts : Respaced ts tail tail') :
    Respaced (t :: ts) (gap ++ (piece ++ tail)) (gap' ++ (piece ++ tail'))

/-- A point is a token by itself. -/
theorem Token.Leads.eq_nil_of_point (h : t.Leads ('.' :: cs) tail) : cs = [] := by
  obtain ⟨c, ds, hcons, hscan⟩ := h
  obtain ⟨rfl, rfl⟩ := List.cons.inj hcons
  have hpoint : scanSymbol 0 '.' (cs ++ tail) = (.ok .dot, 1) := scanSymbol_one (fun _ _ => rfl) rfl
  have hlength := (Prod.mk.inj ((hscan 0).symm.trans hpoint)).2
  exact List.length_eq_zero_iff.mp (Nat.succ.inj hlength)

/-- Two ways to write a token look alike if they begin with the same character, and what is behind them
does. -/
theorem looksLike_append {gap gap' rest : List Char} (hgap : gap.all isBlank)
    (hgap' : gap'.all isBlank) (ht : t.Leads piece tail) (hword : t.Leads word rest)
    (hnext : Clear tail' ∨ tail'.head? = tail.head?)
    (hhead : (gap' ++ (word ++ tail')).head? = (gap ++ (piece ++ tail)).head?) :
    LooksLike (gap ++ (piece ++ tail)) (gap' ++ (word ++ tail')) := by
  -- behind a blank nothing matters, so both tokens are first, with the character in common
  cases gap' with
  | cons b gap' => exact .inl (clear_cons (List.all_eq_true.mp hgap' b List.mem_cons_self))
  | nil =>
    obtain ⟨c, w, rfl, -⟩ := id hword
    have hc := hword.head_not_isBlank c rfl
    cases gap with
    | cons b gap =>
      cases hhead
      rw [List.all_eq_true.mp hgap c List.mem_cons_self] at hc
      cases hc
    | nil =>
      obtain ⟨d, p, rfl, -⟩ := id ht
      cases hhead
      refine .inr ⟨c, p ++ tail, w ++ tail', rfl, rfl, ?_⟩
      rintro rfl
      rw [ht.eq_nil_of_point, hword.eq_nil_of_point]
      exact hnext

/-- Where the first character is kept, the two ways to write the tokens look alike. -/
theorem Respaced.looksLike (h : Respaced ts cs cs') (hhead : cs'.head? = cs.head?) :
    LooksLike cs cs' := by
  cases h with
  | finished hgap hgap' =>
    refine .inl fun c hc => List.all_eq_true.mp hgap' c ?_
    exact List.mem_of_mem_head? hc
  | apart hgap hgap' ht hword hclear _ =>
    exact looksLike_append hgap hgap' ht (ht.of_writtenAs hword) (.inl hclear) hhead
  | joined hgap hgap' ht hnext _ => exact looksLike_append hgap hgap' ht ht (.inr hnext) hhead

/-- **The same tokens are read when they are written once more.** -/
theorem Respaced.readAs (h : Respaced ts cs cs') : ReadAs cs' ts := by
  induction h with
  | finished _ hgap' => exact .finished hgap'
  | apart _ hgap' ht hword hclear _ ih =>
    exact .token hgap' ((ht.of_writtenAs hword).of_clear hclear) ih
  | joined _ hgap' ht hhead hts ih => exact .token hgap' (ht.of_looksLike (hts.looksLike hhead)) ih

/-! ### Texts -/

/-- The text is read to its end as the tokens of the other one, and makes the same tree, or is refused for
the same reason. -/
structure ReadsLike (text' text : String) : Prop where
  whole : (lexemesOf text').failure = none
  tokens : tokensOf text' = tokensOf text
  tree : (parse text').mapError ParseError.unplaced = (parse text).mapError ParseError.unplaced

/-- **Tokens are read back from their texts.**  Take a text that can be read to its end.  The texts that its
tokens are shown as, written one after the other with spaces between them, are read like it, unless
there is a bare single quote in a string.  So is what its tokens are when they are written once more,
with other blanks or in other spellings, and any text with the same tokens. -/
theorem tokens_read_back (text : String) (hwhole : (lexemesOf text).failure = none) :
    ((∀ body, .string body ∈ tokensOf text → hasBare '\'' body.toList = false) →
      ReadsLike (shown (tokensOf text)) text) ∧
    (∀ text' : String, Respaced (tokensOf text) text.toList text'.toList → ReadsLike text' text) ∧
    ∀ text' : String, (lexemesOf text').failure = none → tokensOf text' = tokensOf text →
      ReadsLike text' text := by
  have hlike : ∀ text' : String, ReadAs text'.toList (tokensOf text) → ReadsLike text' text := by
    intro text' h
    obtain ⟨hwhole', htokens⟩ := readAs_iff.mp h
    exact ⟨hwhole', htokens, parse_unplaced hwhole' hwhole htokens⟩
  have hread : ReadAs text.toList (tokensOf text) := readAs_iff.mpr ⟨hwhole, rfl⟩
  refine ⟨fun hbare => hlike _ (readAs_shown fun t ht => ?_), fun text' h => hlike text' h.readAs,
    fun text' hwhole' htokens => hlike text' (readAs_iff.mpr ⟨hwhole', htokens⟩)⟩
  obtain ⟨piece, tail, hleads⟩ := hread.exists_leads t ht
  refine hleads.of_writtenAs (hleads.writtenAs_text fun body hbody => hbare body ?_)
  rwa [← hbody]

/-- A negation as a symbol and as a word, and a member with a blank before its name. -/
theorem tokens_read_back_of_negation :
    shown (tokensOf "!a.b") = "not a . b" ∧ ReadsLike "not a . b" "!a.b" ∧
      Respaced (tokensOf "!a.b") "!a.b".toList "not a. b".toList ∧ ReadsLike "not a. b" "!a.b" := by
  have htokens : tokensOf "!a.b" = [.not, .identifier "a", .dot, .identifier "b"] := by
    decide +kernel
  have hb : Respaced [.identifier "b"] ([] ++ (['b'] ++ [])) ([' '] ++ (['b'] ++ [])) :=
    .apart rfl rfl (leads_of_scanToken 0 'b' [] rfl) ⟨rfl, by simp⟩ clear_nil (.finished rfl rfl)
  have hdot : Respaced [.dot, .identifier "b"] ([] ++ (['.'] ++ ['b'])) ([] ++ (['.'] ++ [' ', 'b'])) :=
    .apart rfl rfl (leads_of_scanToken 0 '.' [] rfl) ⟨rfl, by simp⟩ (clear_cons rfl) hb
  have ha : Respaced [.identifier "a", .dot, .identifier "b"] ([] ++ (['a'] ++ ['.', 'b']))
      ([' '] ++ (['a'] ++ ['.', ' ', 'b'])) :=
    .joined rfl rfl (leads_of_scanToken 0 'a' [] rfl) rfl hdot
  have hnot : Respaced [.not, .identifier "a", .dot, .identifier "b"] ([] ++ (['!'] ++ ['a', '.', 'b']))
      ([] ++ (['n', 'o', 't'] ++ [' ', 'a', '.', ' ', 'b'])) :=
    .apart rfl rfl (leads_of_scanToken 0 '!' [] rfl) ⟨.inl rfl, by simp⟩ (clear_cons rfl) ha
  have hrespaced : Respaced (tokensOf "!a.b") "!a.b".toList "not a. b".toList := htokens ▸ hnot
  have hshown : shown (tokensOf "!a.b") = "not a . b" := by decide +kernel
  obtain ⟨hlike, hlike', -⟩ := tokens_read_back "!a.b" (by decide +kernel)
  refine ⟨hshown, hshown ▸ hlike ?_, hrespaced, hlike' _ hrespaced⟩
  simp [htokens]

end

end ExprLang
