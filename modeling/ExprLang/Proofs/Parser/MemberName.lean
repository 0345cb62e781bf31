import Mathlib.Data.List.Chain
import ExprLang.Evaluation
import ExprLang.Proofs.Parser.Mistake
import ExprLang.Proofs.Parser.Refusal
import ExprLang.Proofs.Pattern.Anchored
import ExprLang.Proofs.Token.Joined

/-!
# Names of members

Behind a dot there is a name, and a reserved word is none, whatever it would mean.  So a word that is an
operator cannot be written as a method: the dot in front of it could be gone on with, but not with the
word, and that is what a text is refused for if nothing before is wrong.

With matching this can be seen from both sides.  A text and a pattern, each in parentheses, with the
operator between them are read as a match; the same two with a dot and parentheses are refused at the
word; and if a tree with such a call could come about in another way, there would be no method of that
name.

## Main definitions

* `Token.endsOperand` — the tokens that a phrase may end with.
* `WellJoined` — every dot among the tokens has a name behind it.

## Main results

* `Derives.wellJoined` — phrases have a name behind every dot.
* `refused_at_first_mistake` — **a text is refused for its first mistake**, unless it is too deep.
* `matches_is_no_method` — **there is no method for matching**, only the operator.

## References

`SPEC_FULL.md`, 10.1, on keywords and methods; the reference's `keyword` and `parse_postfix_chain`.
-/

namespace ExprLang

/-! ### Dots and names -/

/-- A token that a phrase may end with. -/
def Token.endsOperand : Token → Bool
  | .integer _ | .decimal _ | .string _ | .boolean _ | .null | .identifier _ | .binding _
  | .component _ | .rightParen | .rightBracket | .rightBrace => true
  | _ => false

theorem Atom.endsOperand {t : Token} {e : Expr} (h : Atom t e) : t.endsOperand := by
  cases h <;> rfl

/-- The token is a name if it stands behind a dot. -/
def Token.Follows (t u : Token) : Prop :=
  t = .dot ∨ t = .safeDot → ∃ name, u = .identifier name

/-- Every dot among the tokens has a name behind it, and the last of them may end a phrase. -/
structure WellJoined (ts : List Token) : Prop where
  chain : ts.IsChain Token.Follows
  last : ∀ t ∈ ts.getLast?, t.endsOperand

namespace WellJoined

variable {t : Token} {ts us : List Token}

theorem nil : WellJoined [] := ⟨.nil, by simp⟩

theorem single (ht : t.endsOperand) : WellJoined [t] := ⟨.singleton t, by simpa using ht⟩

/-- Behind what may end a phrase anything can follow. -/
theorem append (h : WellJoined ts) (h' : WellJoined us) : WellJoined (ts ++ us) where
  chain := by
    refine List.isChain_append.mpr ⟨h.chain, h'.chain, fun x hx y _ hdot => ?_⟩
    have hlast := h.last x hx
    rcases hdot with rfl | rfl <;> cases hlast
  last t ht := by
    rw [List.getLast?_append] at ht
    cases hus : us.getLast? with
    | none =>
      rw [hus] at ht
      exact h.last t ht
    | some u =>
      rw [hus] at ht
      exact h'.last t (hus ▸ ht)

/-- A token that is no dot can be in front of others. -/
theorem cons (ht : t ≠ .dot ∧ t ≠ .safeDot) (h : WellJoined us) (hne : us ≠ []) :
    WellJoined (t :: us) where
  chain := by
    refine List.isChain_cons.mpr ⟨fun u _ hdot => ?_, h.chain⟩
    rcases hdot with hdot | hdot
    · exact absurd hdot ht.1
    · exact absurd hdot ht.2
  last u hu := by
    obtain ⟨v, vs, rfl⟩ := List.exists_cons_of_ne_nil hne
    exact h.last u (by rwa [List.getLast?_cons_cons] at hu)

/-- A dot can be in front of a name. -/
theorem member (nullSafe : Bool) (name : String) (h : WellJoined us) :
    WellJoined (memberDot nullSafe :: .identifier name :: us) where
  chain := by
    have hname : WellJoined [.identifier name] := single rfl
    exact List.isChain_cons_cons.mpr ⟨fun _ => ⟨name, rfl⟩, (hname.append h).chain⟩
  last u hu := by
    have hname : WellJoined [.identifier name] := single rfl
    rw [List.getLast?_cons_cons] at hu
    exact (hname.append h).last u hu

/-- Brackets can be around them. -/
theorem enclosed {opening closing : Token} (h : WellJoined us)
    (hopening : opening ≠ .dot ∧ opening ≠ .safeDot) (hclosing : closing.endsOperand) :
    WellJoined (opening :: (us ++ [closing])) :=
  cons hopening (h.append (single hclosing)) (by simp)

end WellJoined

theorem DerivesItems.ne_nil {ts : List Token} {e : Expr} {es : List Expr}
    (h : DerivesItems ts (e :: es)) : ts ≠ [] := by
  cases h with
  | last h => exact h.ne_nil
  | cons h _ => exact List.append_ne_nil_of_left_ne_nil h.ne_nil _

mutual

/-- Every dot in a phrase has a name behind it. -/
theorem Derives.wellJoined {p : Precedence} {ts : List Token} {e : Expr} :
    Derives p ts e → WellJoined ts
  | .tighter h => h.wellJoined
  | .conditional hc ht hf =>
    have helse := WellJoined.cons (t := .colon) (by simp) hf.wellJoined hf.ne_nil
    hc.wellJoined.append (.cons (by simp) (ht.wellJoined.append helse) (by simp))
  | .elvis hv hf => hv.wellJoined.append (.cons (by simp) hf.wellJoined hf.ne_nil)
  | .binary _ hl hr => hl.wellJoined.append (.cons (by simp) hr.wellJoined hr.ne_nil)
  | .negate h => .cons (by simp) h.wellJoined h.ne_nil
  | .not h => .cons (by simp) h.wellJoined h.ne_nil
  | .property nullSafe name h => h.wellJoined.append (.member nullSafe name .nil)
  | .call nullSafe name h hs =>
    h.wellJoined.append (.member nullSafe name (hs.wellJoined.enclosed (by simp) rfl))
  | .index h hi => h.wellJoined.append (hi.wellJoined.enclosed (by simp) rfl)
  | .atom h => .single h.endsOperand
  | .parens h => h.wellJoined.enclosed (by simp) rfl
  | .list hs => hs.wellJoined.enclosed (by simp) rfl

theorem DerivesItems.wellJoined {ts : List Token} {es : List Expr} :
    DerivesItems ts es → WellJoined ts
  | .none => .nil
  | .last h => h.wellJoined
  | .cons h hs => h.wellJoined.append (.cons (by simp) hs.wellJoined hs.ne_nil)

end

/-- Where a dot is followed by what is no name, no phrase can go on. -/
theorem not_viable_of_dot {ts : List Token} {t : Token} (ht : ∀ name, t ≠ .identifier name) :
    ¬ Viable (ts ++ [.dot, t]) := by
  rintro ⟨us, e, h⟩
  have hchain := h.wellJoined.chain
  rw [List.append_assoc, List.cons_append, List.cons_append] at hchain
  obtain ⟨-, hdot, -⟩ := List.isChain_append_cons_cons.mp hchain
  obtain ⟨name, hname⟩ := hdot (.inl rfl)
  exact ht name hname

/-! ### The first mistake -/

section

variable {text : String} {e : ParseError} {front back : List Lexeme} {l : Lexeme}

/-- If the tokens in front of `l` can be completed to a sentence, and with it they cannot, then an error
about a token is about this one. -/
theorem eq_unexpected_of_mistake (h : parse text = .error e) (he : e.IsUnexpected)
    (hsplit : (lexemesOf text).lexemes = front ++ l :: back)
    (hviable : Viable (front.map Lexeme.token))
    (hnot : ¬ Viable (front.map Lexeme.token ++ [l.token])) :
    ∃ expected, e = .unexpectedToken l.token expected l.start := by
  obtain ⟨before, after, hcut, -, hmarks, hbefore, hmistake⟩ := exists_cut_of_parse h he
  rw [hsplit, List.append_eq_append_iff] at hcut
  obtain ⟨more, rfl, hmore⟩ | ⟨more, rfl, rfl⟩ := hcut
  · cases more with
    | nil =>
      rw [List.nil_append] at hmore
      rw [← hmore] at hmarks
      exact hmarks
    | cons m ms =>
      -- then what is told as viable has the mistake in it
      rw [List.cons_append, List.cons.injEq] at hmore
      obtain ⟨rfl, -⟩ := hmore
      obtain ⟨us, hus⟩ := hbefore
      refine absurd ⟨ms.map Lexeme.token ++ us, ?_⟩ hnot
      simpa using hus
  · cases more with
    | nil => exact hmarks
    | cons m ms =>
      -- then the sentence that the tokens in front can be completed to goes on behind the cut
      obtain ⟨us, hus⟩ := hviable
      refine absurd ?_ (hmistake (m.token :: (ms.map Lexeme.token ++ us)) rfl)
      simpa using hus.shape

/-- **A text is refused for its first mistake**, or because it is too deep, if it can be read to its end
and so can all of its literals. -/
theorem refused_at_first_mistake (hwhole : (lexemesOf text).failure = none)
    (hreadable : ∀ t ∈ tokensOf text, t.Readable)
    (hsplit : (lexemesOf text).lexemes = front ++ l :: back)
    (hviable : Viable (front.map Lexeme.token))
    (hnot : ¬ Viable (front.map Lexeme.token ++ [l.token])) :
    (∃ expected, parse text = .error (.unexpectedToken l.token expected l.start)) ∨
      ∃ position, parse text = .error (.tooDeeplyNested maxDepth position) := by
  cases hparse : parse text with
  | ok e =>
    -- a text that stands for a tree has no mistake in it
    have hderives := (StandsFor.of_parse hparse).derives
    rw [tokensOf, hsplit, List.map_append, List.map_cons] at hderives
    refine absurd ⟨back.map Lexeme.token, e, ?_⟩ hnot
    simpa using hderives
  | error e =>
    rcases refuses_of_parse hparse with rfl | hrefuses
    · have hblank := lexemes_eq_nil_of_isBlankText (parse_eq_emptyExpression_iff.mp hparse)
      rw [hsplit] at hblank
      exact absurd hblank (by simp)
    · cases hrefuses with
      | failure hfailure =>
        rw [hwhole] at hfailure
        cases hfailure
      | @literal _ m hm hatom =>
        -- every literal of the text can be read
        have hread := hreadable m.token (List.mem_map_of_mem hm)
        rcases atom?_eq_error hatom with ⟨digits, htoken, hnone, -⟩ | ⟨body, escape, htoken, hnone, -⟩
        · rw [htoken] at hread
          obtain ⟨d, hd⟩ := hread
          rw [hnone] at hd
          cases hd
        · rw [htoken] at hread
          obtain ⟨cs, hcs⟩ := hread
          rw [hnone] at hcs
          cases hcs
      | unexpected hunexpected =>
        obtain ⟨expected, rfl⟩ := eq_unexpected_of_mistake hparse hunexpected hsplit hviable hnot
        exact .inl ⟨expected, rfl⟩
      | deep position => exact .inr ⟨position, rfl⟩

end

/-! ### Matching -/

/-- The call of a method for matching, as it would be written. -/
def matchCallText (receiver pattern : String) : String := receiver ++ ".matches(" ++ pattern ++ ")"

/-- The match of two operands in parentheses. -/
def matchText (left right : String) : String := "(" ++ left ++ ") matches (" ++ right ++ ")"

section

variable {receiver pattern text : String} {r p e : Expr} {piece tail : List Char} {t : Token}

theorem readAs_of_parse (h : parse text = .ok e) : ReadAs text.toList (tokensOf text) :=
  readAs_iff.mpr ⟨(StandsFor.of_parse h).whole, rfl⟩

/-- The word that is the operator. -/
def matchWord : List Char := ['m', 'a', 't', 'c', 'h', 'e', 's']

theorem leads_matchWord : (Token.operator .fullMatch).Leads matchWord [] :=
  leads_of_scanToken 0 'm' ['a', 't', 'c', 'h', 'e', 's'] rfl

/-! ### The operator -/

theorem toList_matchText (left right : String) :
    (matchText left right).toList =
      '(' :: (left.toList ++ ')' :: ([' '] ++ (matchWord ++ ([' '] ++ '(' :: (right.toList ++ [')']))))) := by
  simp [matchText, matchWord]

/-- Two operands in parentheses with the operator between them are read as a match. -/
theorem parse_matchText (hr : parse receiver = .ok r) (hp : parse pattern = .ok p) :
    parse (matchText receiver pattern) = .ok (.binary .fullMatch r p) ∨
      ∃ limit position,
        parse (matchText receiver pattern) = .error (.tooDeeplyNested limit position) := by
  have hspace : [' '].all isBlank := rfl
  have hnone : ReadAs [] [] := .finished rfl
  have hright := ((readAs_of_parse hp).parens hnone).skip hspace
  have hword : (Token.operator .fullMatch).Leads matchWord
      ([' '] ++ '(' :: (pattern.toList ++ [')'])) :=
    leads_matchWord.of_clear (clear_cons rfl)
  -- put together from the back: the pattern, the keyword, the receiver
  have hread := (readAs_of_parse hr).parens (.token hspace hword hright)
  obtain ⟨hwhole, htokens⟩ := readAs_iff.mp (toList_matchText receiver pattern ▸ hread)
  have hleft := Derives.parens (StandsFor.of_parse hr).derives
  have hparens := Derives.parens (StandsFor.of_parse hp).derives
  -- parentheses make both operands tight enough for the comparison
  have hmatch : Derives .ternary (tokensOf (matchText receiver pattern)) (.binary .fullMatch r p) := by
    rw [htokens]
    have hoperands := Derives.binary .fullMatch (hleft.weaken (by decide)) (hparens.weaken (by decide))
    have hphrase := hoperands.weaken (p := .ternary) (by decide)
    simpa using hphrase
  rw [parse, if_neg (not_isBlankText_of_derives hmatch)]
  exact parseLexemes_of_derives hwhole hmatch

/-! ### The method -/

/-- A word that ends a phrase has a dot behind it if one is written there. -/
theorem endsLast_of_endsOperand {ts : List Token} (h : ∀ t ∈ ts.getLast?, t.endsOperand) {d : Char}
    (hd : d.isDigit = false) (more : List Char) : EndsLast ts ('.' :: d :: more) := by
  refine ⟨?_, fun t ht piece hleads => hleads.before_point (fun c hc => ?_) hd more⟩
  · rintro d ⟨⟩
    rfl
  · rintro rfl
    obtain ⟨cs, rfl⟩ := List.head?_eq_some_iff.mp hc
    have hends := h t ht
    rcases hleads.of_questionMark with rfl | rfl | rfl <;> cases hends

theorem toList_matchCallText (receiver pattern : String) :
    (matchCallText receiver pattern).toList =
      receiver.toList ++ (['.'] ++ (matchWord ++ '(' :: (pattern.toList ++ [')']))) := by
  simp [matchCallText, matchWord]

/-- The tokens of such a call: the word behind the dot is the operator, as it is elsewhere. -/
theorem exists_lexemes_matchCall {ts us : List Token} (hreceiver : ReadAs receiver.toList ts)
    (hlast : ∀ t ∈ ts.getLast?, t.endsOperand) (hpattern : ReadAs pattern.toList us) :
    ∃ front stop back,
      (lexemesOf (matchCallText receiver pattern)).lexemes =
        front ++ ⟨.operator .fullMatch, receiver.utf8ByteSize + 1, stop⟩ :: back ∧
      front.map Lexeme.token = ts ++ [.dot] ∧
      back.map Lexeme.token = .leftParen :: (us ++ [.rightParen]) ∧
      (lexemesOf (matchCallText receiver pattern)).failure = none := by
  generalize hargument : '(' :: (pattern.toList ++ [')']) = argument
  generalize hn : receiver.utf8ByteSize = n
  have htext : (Cursor.start (matchCallText receiver pattern)).rest =
      receiver.toList ++ (['.'] ++ (matchWord ++ argument)) := by
    rw [← hargument]
    exact toList_matchCallText receiver pattern
  obtain ⟨ls, c, hreads, htokens, hc⟩ := Cursor.exists_reads_append hreceiver htext
    (by rintro d ⟨⟩; rfl) (endsLast_of_endsOperand hlast rfl _)
  have hoffset : c.skipBlanks.offset = n := by
    rw [hc, ← hn]
    exact (Nat.zero_add _).trans (byteLength_toList receiver)
  have hdot : c.next = .lexeme ⟨.dot, n, n + 1⟩ ⟨matchWord ++ argument, n + 1⟩ := by
    rw [Cursor.next_of_leads (leads_of_scanToken 0 '.' [] rfl) (congrArg Cursor.rest hc), hoffset]
    rfl
  -- behind the dot there is no blank to be skipped
  have hword : Cursor.next ⟨matchWord ++ argument, n + 1⟩ =
      .lexeme ⟨.operator .fullMatch, n + 1, n + 1 + byteLength matchWord⟩
        ⟨argument, n + 1 + byteLength matchWord⟩ := by
    have hleads : (Token.operator .fullMatch).Leads matchWord argument := by
      rw [← hargument]
      exact leads_matchWord.before_paren (.inl rfl) _
    exact Cursor.next_of_leads hleads rfl
  have hall := (hreads.append (.next hdot (.next hword (.none _)))).lexemes_eq
  have hnone : ReadAs [] [] := .finished rfl
  have hbehind : ReadAs argument (.leftParen :: (us ++ [.rightParen])) := hargument ▸ hpattern.parens hnone
  obtain ⟨hwhole, hback⟩ :=
    Cursor.lexemes_of_readAs hbehind (c := ⟨argument, n + 1 + byteLength matchWord⟩) rfl
  refine ⟨ls ++ [⟨.dot, n, n + 1⟩], n + 1 + byteLength matchWord, _, ?_, ?_, hback, ?_⟩
  · rw [lexemesOf, hall, List.append_assoc, List.append_assoc]
    rfl
  · rw [List.map_append, htokens]
    rfl
  · rw [lexemesOf, hall]
    exact hwhole

/-- With a dot in front of it the word is a mistake, and the first one. -/
theorem parse_matchCallText (hr : parse receiver = .ok r) (hmember : Derives .member (tokensOf receiver) r)
    (hp : parse pattern = .ok p) :
    (∃ expected, parse (matchCallText receiver pattern) =
        .error (.unexpectedToken (.operator .fullMatch) expected (receiver.utf8ByteSize + 1))) ∨
      ∃ position, parse (matchCallText receiver pattern) = .error (.tooDeeplyNested maxDepth position) := by
  have hstands := StandsFor.of_parse hr
  have hstands' := StandsFor.of_parse hp
  obtain ⟨front, stop, back, hsplit, hfront, hback, hwhole⟩ :=
    exists_lexemes_matchCall (readAs_of_parse hr) hmember.wellJoined.last (readAs_of_parse hp)
  refine refused_at_first_mistake hwhole (fun t ht => ?_) hsplit ?_ ?_
  · rw [tokensOf, hsplit, List.map_append, List.map_cons, hfront, hback] at ht
    have hreadable := hstands.readable
    have hreadable' := hstands'.readable
    simp only [List.mem_append, List.mem_cons, List.not_mem_nil, or_false] at ht
    rcases ht with (ht | rfl) | rfl | rfl | ht | rfl
    · exact hreadable t ht
    · trivial
    · trivial
    · trivial
    · exact hreadable' t ht
    · trivial
  -- a receiver can begin a member, but no phrase goes on with the keyword after a dot
  · rw [hfront]
    exact (hmember.starts_member false).weaken (by decide)
  · rw [hfront, List.append_assoc]
    exact not_viable_of_dot (by simp)

end

/-! ### Evaluation -/

/-- **There is no method for matching.**  Let `receiver` be the text of a chain of member accesses and
`pattern` that of any expression.  Written as a method of the one, with the other for its argument,
matching is refused at the word, if not because there are too many levels.  With the operator between
them the two are read as a match, unless there are too many levels; and in every context in which the
receiver is a text, this match has the value of matching it, while a call of such a method would fail
whatever the argument is. -/
theorem matches_is_no_method {receiver pattern : String} {r p : Expr} (hr : parse receiver = .ok r)
    (hmember : Derives .member (tokensOf receiver) r) (hp : parse pattern = .ok p) :
    ((∃ expected, parse (matchCallText receiver pattern) =
          .error (.unexpectedToken (.operator .fullMatch) expected (receiver.utf8ByteSize + 1))) ∨
        ∃ position,
          parse (matchCallText receiver pattern) = .error (.tooDeeplyNested maxDepth position)) ∧
      (parse (matchText receiver pattern) = .ok (.binary .fullMatch r p) ∨
        ∃ limit position,
          parse (matchText receiver pattern) = .error (.tooDeeplyNested limit position)) ∧
      ∀ context s, r.eval context = .ok (.string s) →
        (Expr.binary .fullMatch r p).eval context = (p.eval context >>= Value.fullMatch (.string s)) ∧
          ∀ nullSafe, (Expr.call r "matches" [p] nullSafe).eval context =
            (p.eval context >>= fun _ => .error (.unknownMethod "matches" .string)) := by
  refine ⟨parse_matchCallText hr hmember hp, parse_matchText hr hp, fun context s hs => ⟨?_, ?_⟩⟩
  · rw [Expr.eval] at hs ⊢
    rw [Expr.evalIn, hs]
    rfl
  -- the tree that a method call would give: strings have no such method
  · intro nullSafe
    rw [Expr.eval] at hs
    rw [Expr.eval, Expr.eval, Expr.evalIn, hs, evalAllIn, evalAllIn]
    cases (p.evalIn context : Outcome Value) <;> rfl

/-- So it is with a receiver that ends in a call, and a pattern that is a sum. -/
theorem matches_is_no_method_of_call :
    parse "ä.trim()" = .ok (.call (.identifier "ä") "trim" [] false) ∧
      Derives .member (tokensOf "ä.trim()") (.call (.identifier "ä") "trim" [] false) ∧
      parse "'ö' + x" = .ok (.binary .add (.literal (.string "ö")) (.identifier "x")) ∧
      ((∃ expected, parse "ä.trim().matches('ö' + x)" =
          .error (.unexpectedToken (.operator .fullMatch) expected 10)) ∨
        ∃ position, parse "ä.trim().matches('ö' + x)" =
          .error (.tooDeeplyNested maxDepth position)) := by
  have hr : parse "ä.trim()" = .ok (.call (.identifier "ä") "trim" [] false) := by decide +kernel
  have hp : parse "'ö' + x" = .ok (.binary .add (.literal (.string "ö")) (.identifier "x")) := by
    decide +kernel
  have hmember : Derives .member (tokensOf "ä.trim()") (.call (.identifier "ä") "trim" [] false) := by
    have htokens : tokensOf "ä.trim()" =
        [.identifier "ä", .dot, .identifier "trim", .leftParen, .rightParen] := by decide +kernel
    rw [htokens]
    exact .call false "trim" (.atom (.identifier "ä")) .none
  exact ⟨hr, hmember, hp, (matches_is_no_method hr hmember hp).1⟩

/-- The call in question is refused, although its two operands can be read, the first of them is a text
where it is evaluated, and the operator between them says that they match. -/
theorem match_call_refused :
    parse "text" = .ok (.identifier "text") ∧ parse "'^a+$'" = .ok (.literal (.string "^a+$")) ∧
      Derives .member (tokensOf "text") (.identifier "text") ∧
      parse "text.matches('^a+$')" =
        .error (.unexpectedToken (.operator .fullMatch) .memberName 5) ∧
      parse "(text) matches ('^a+$')" =
        .ok (.binary .fullMatch (.identifier "text") (.literal (.string "^a+$"))) ∧
      (Expr.identifier "text").eval (.ofPairs [("text", .string "aaa")]) = .ok (.string "aaa") ∧
      (Expr.binary .fullMatch (.identifier "text") (.literal (.string "^a+$"))).eval
        (.ofPairs [("text", .string "aaa")]) = .ok (.boolean true) := by
  have hmember : Derives .member (tokensOf "text") (.identifier "text") := by
    have htokens : tokensOf "text" = [.identifier "text"] := by decide +kernel
    rw [htokens]
    exact .atom (.identifier "text")
  have htext : (Expr.identifier "text").eval (.ofPairs [("text", .string "aaa")]) =
      .ok (.string "aaa") := by
    rw [Expr.eval]
    rfl
  have hmatch : Pattern.fullMatch? "^a+$" "aaa" = some true := by decide +kernel
  refine ⟨by decide +kernel, by decide +kernel, hmember, by decide +kernel, by decide +kernel, htext, ?_⟩
  rw [eval_fullMatch_eq htext (eval_literal _ _), hmatch]

end ExprLang
