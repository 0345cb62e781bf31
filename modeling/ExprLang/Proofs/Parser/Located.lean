import ExprLang.Proofs.Parser.Refusal
import ExprLang.Proofs.Token.Fault
import ExprLang.Proofs.Token.Lossless

/-!
# Errors tell where they are

Characters, numbers and strings are faulted in two ways.  Most of them stop the scanner, which is then
behind the last of the tokens that it has read.  A number with a point is a token whatever its digits
are, and is only found to be too large when the parser has come to it, one token later than the scanner.
In both cases the error points to where the fault begins, and what is before that can be read to its end
by itself.

What is too deep is noticed with a token in view, and the error points behind that.

## Main definitions

* `ParseError.StandsAt` — what an error says of a place of the text is there.

## Main results

* `Cursor.Reads.standsAt` — an error is where reading has come to.
* `parse_error_located` — **errors tell where they are**.

## References

`SPEC_FULL.md`, 10.1, on the position of a parse error; the reference's `ParseError`.
-/

namespace ExprLang

/-- At the byte `p` the text goes on with `rest`, which is what the error is about.  What is before it is
read to its end by itself, and as the tokens that it is read as in the text. -/
structure ParseError.StandsAt (e : ParseError) (text : String) (p : ℕ) (before rest : List Char) :
    Prop where
  cut : text.toList = before ++ rest
  position : p = byteLength before
  boundary : IsBoundary text p
  inside : p < text.utf8ByteSize
  whole : (lexemesOf (String.ofList before)).failure = none
  tokens : tokensOf (String.ofList before) <+: tokensOf text
  fault : Fault before e rest

section

variable {text : String} {e : ParseError} {c c' : Cursor} {l : Lexeme} {ls : List Lexeme}

/-! ### Where reading has come to -/

/-- Each lexeme is read behind those before it. -/
theorem Cursor.Reads.exists_of_mem (h : c.Reads ls c') (hl : l ∈ ls) :
    ∃ front d after, front <+: ls ∧ c.Reads front d ∧ d.next = .lexeme l after := by
  induction h with
  | none => cases hl
  | @next c after c' m ms hnext _ ih =>
    rcases List.mem_cons.mp hl with rfl | hl
    · exact ⟨[], c, after, List.nil_prefix, .none c, hnext⟩
    · obtain ⟨front, d, after', hfront, hreads, hd⟩ := ih hl
      exact ⟨m :: front, d, after', List.cons_prefix_cons.mpr ⟨rfl, hfront⟩, .next hnext hreads, hd⟩

/-- A lexeme begins where the blanks before it end. -/
theorem Cursor.start_of_next {after : Cursor} (h : c.next = .lexeme l after) :
    l.start = c.skipBlanks.offset := by
  cases hrest : c.skipBlanks.rest with
  | nil =>
    rw [next_of_end hrest] at h
    cases h
  | cons ch rest =>
    rcases hscan : scanToken c.skipBlanks.offset ch rest with ⟨e | t, n⟩
    · rw [next_of_error hrest hscan] at h
      cases h
    · rw [next_of_token hrest hscan] at h
      cases h
      rfl

/-- An error is where reading has come to if that is what it is about. -/
theorem Cursor.Reads.standsAt {d : Cursor} (h : (Cursor.start text).Reads ls d)
    (hls : ls <+: (lexemesOf text).lexemes)
    (hfault : ∀ before, d.skipBlanks.offset = byteLength before →
      (∀ a ∈ d.skipBlanks.rest.head?, a.isDigit → ∀ b ∈ before.getLast?, b.isDigit = false) →
      Fault before e d.skipBlanks.rest) :
    ∃ before rest, e.StandsAt text d.skipBlanks.offset before rest := by
  obtain ⟨before, hcut, hoffset, hread, hapart⟩ := h.exists_before
  have hoffset : d.skipBlanks.offset = byteLength before := hoffset.trans (Nat.zero_add _)
  have hcut : text.toList = before ++ d.skipBlanks.rest := hcut
  have hfault := hfault before hoffset hapart
  -- what was read before the fault is a text of its own, and it reads the same
  rw [← String.toList_ofList (l := before)] at hread
  obtain ⟨hwhole, htokens⟩ := readAs_iff.mp hread
  refine ⟨before, d.skipBlanks.rest, hcut, hoffset, ?_, ?_, hwhole, ?_, hfault⟩
  · rw [hoffset]
    exact isBoundary_of_append hcut
  · have hpos := byteLength_pos hfault.ne_nil
    rw [hoffset, ← byteLength_toList, hcut, byteLength_append]
    exact Nat.lt_add_of_pos_right hpos
  · rw [htokens]
    exact hls.map Lexeme.token

/-! ### Errors of the scanner -/

/-- The scanner fails at what its error is about. -/
theorem exists_standsAt_of_failure (h : (lexemesOf text).failure = some e) :
    ∃ p before rest, e.StandsAt text p before rest := by
  obtain ⟨d, hreads, hend⟩ := (Cursor.start text).exists_reads_lexemes
  have hfailed : d.next.outcome.1 = .error e := by
    have hfailure : (Cursor.start text).lexemes.failure = some e := h
    rw [hend, hfailure]
    rfl
  refine ⟨d.skipBlanks.offset, hreads.standsAt List.prefix_rfl fun before hoffset hapart => ?_⟩
  -- the failure is that of the scan behind the blanks; the other ways to go on read a token
  cases hrest : d.skipBlanks.rest with
  | nil =>
    rw [Cursor.next_of_end hrest] at hfailed
    cases hfailed
  | cons ch rest =>
    rw [hrest] at hapart
    rcases hscan : scanToken d.skipBlanks.offset ch rest with ⟨e' | t, n⟩
    · rw [Cursor.next_of_error hrest hscan] at hfailed
      cases hfailed
      rw [hoffset] at hscan
      exact fault_of_scanToken (hapart ch rfl) hscan
    · rw [Cursor.next_of_token hrest hscan] at hfailed
      cases hfailed

/-! ### Numbers that the parser finds too large -/

/-- Only digits make a decimal. -/
theorem isDigit_of_scanToken_decimal {start n : ℕ} {ch : Char} {cs : List Char} {digits : String}
    (h : scanToken start ch cs = (.ok (.decimal digits), n)) : ch.isDigit := by
  unfold scanToken at h
  split at h
  · assumption
  -- what begins in any other way makes a token of another kind
  exfalso
  split at h
  · unfold scanString at h
    split at h <;> cases h
  split at h
  · unfold scanMarked at h
    split at h <;> cases h
  split at h
  · unfold scanMarked at h
    split at h <;> cases h
  split at h
  · unfold wordToken at h
    repeat' split at h
    all_goals cases h
  unfold scanSymbol at h
  split at h
  · next t htwo =>
    obtain ⟨d, -, htwo⟩ := Option.bind_eq_some_iff.mp htwo
    cases h
    unfold symbolOfTwo? at htwo
    split at htwo <;> cases htwo
  split at h
  · next t hone =>
    cases h
    unfold symbolOfOne? at hone
    split at hone <;> cases hone
  · cases h

/-- A decimal that is read off has digits on both sides of its point. -/
theorem exists_of_leads_decimal {digits : String} {piece tail : List Char}
    (h : (Token.decimal digits).Leads piece tail) :
    ∃ whole d places, digits = String.ofList (whole ++ '.' :: d :: places) ∧
      piece = whole ++ '.' :: d :: places ∧ whole ≠ [] ∧ (∀ c ∈ whole, c.isDigit) ∧
      (∀ c ∈ d :: places, c.isDigit) ∧ ∀ c ∈ tail.head?, c.isDigit = false := by
  obtain ⟨ch, cs, rfl, hscan⟩ := h
  have hdigit := isDigit_of_scanToken_decimal (hscan 0)
  have hnumber := hscan 0
  rw [scanToken, if_pos hdigit] at hnumber
  have hnumeral : Numeral tail (.decimal digits) (ch :: cs) := numeral_of_scanNumber hnumber
  generalize hpiece : ch :: cs = piece at hnumeral
  cases hnumeral with
  | @decimal whole places d hwhole hplaces htail =>
    refine ⟨whole, d, places, rfl, rfl, ?_, hwhole, hplaces, htail⟩
    rintro rfl
    cases hpiece
    exact absurd hdigit (by decide)

/-- A literal that is too large is where its token begins. -/
theorem exists_standsAt_of_literal (hl : l ∈ (lexemesOf text).lexemes)
    (hatom : atom? l = some (.error e)) (hlexical : e.IsLexical) :
    ∃ p before rest, e.StandsAt text p before rest := by
  obtain ⟨c', hall, -⟩ := (Cursor.start text).exists_reads_lexemes
  obtain ⟨front, d, after, hfront, hreads, hnext⟩ := hall.exists_of_mem hl
  refine ⟨d.skipBlanks.offset, hreads.standsAt hfront fun before hoffset hapart => ?_⟩
  -- of the two errors in a literal only the number is a lexical one
  obtain ⟨digits, hdigits, hread, rfl⟩ : ∃ digits, l.token = .decimal digits ∧
      Decimal.read? digits.toList = none ∧ e = .invalidNumber digits l.start := by
    rcases atom?_eq_error hatom with hdecimal | ⟨body, escape, -, -, rfl⟩
    · exact hdecimal
    · exact hlexical.elim
  obtain ⟨gap, piece, hgap, hcut, hleads⟩ := Cursor.exists_leads hnext
  obtain ⟨gap', piece', htaken⟩ := Cursor.exists_taken hnext
  rw [hdigits] at hleads
  -- the digits are cut at the point, the way the scan found them
  obtain ⟨whole, p, places, rfl, rfl, hne, hwhole, hplaces, htail⟩ := exists_of_leads_decimal hleads
  rw [String.toList_ofList, Decimal.read?_eq_none_iff hne hwhole hplaces] at hread
  have hrest : d.skipBlanks.rest = whole ++ '.' :: p :: places ++ after.rest := by
    rw [Cursor.skipBlanks, hcut]
    exact dropWhile_append_eq (List.all_eq_true.mp hgap) hleads.head_not_isBlank
  have hstart : l.start = byteLength before := (Cursor.start_of_next hnext).trans hoffset
  rw [hrest] at hapart ⊢
  rw [hstart]
  refine .decimal hne hwhole hplaces ?_ htail hread
  obtain ⟨w, ws, rfl⟩ := List.exists_cons_of_ne_nil hne
  exact hapart w rfl (hwhole w List.mem_cons_self)

/-! ### Levels -/

/-- What the text has been looked at ends between two characters. -/
theorem isBoundary_viewed {s : ParserState} (hs : s.ahead <:+ (lexemesOf text).lexemes) :
    IsBoundary text (s.viewed (lexemesOf text)) := by
  obtain ⟨d, hreads, hend⟩ := (Cursor.start text).exists_reads_lexemes
  have hlossless := lossless_of_reads hreads
  -- a token ahead starts on a boundary; at the end the place is where the lexer stopped
  cases hahead : s.ahead with
  | cons l rest =>
    rw [ParserState.viewed, hahead]
    exact (hlossless.spans l (hs.subset (hahead ▸ List.mem_cons_self))).2.2.2
  | nil =>
    have hin := hreads.in_end (Cursor.in_start text)
    have hstop : d.next.outcome.2 = (lexemesOf text).stop := congrArg Prod.snd hend
    rw [ParserState.viewed, hahead]
    change IsBoundary text (lexemesOf text).stop
    rw [← hstop]
    cases hnext : d.next with
    | finished after =>
      rw [Step.outcome, (hin.of_finished hnext).2, ← byteLength_toList]
      exact isBoundary_of_append (List.append_nil text.toList).symm
    | failed e after => exact (hin.of_failed hnext).isBoundary
    | lexeme l after =>
      obtain ⟨gap, piece, htaken⟩ := Cursor.exists_taken hnext
      exact (htaken.in_after hin).isBoundary

/-- What is too deep is noticed between two characters. -/
def Stop.DeepBetween (text : String) : Stop → Prop
  | .error (.tooDeeplyNested _ p) => IsBoundary text p
  | _ => True

theorem invariant_deepBetween (text : String) :
    Invariant (lexemesOf text) (fun s => s.ahead <:+ (lexemesOf text).lexemes)
      (Stop.DeepBetween text) where
  opened hs _ := hs
  closed hs := hs
  advanced hs hahead _ := (List.suffix_cons _ _).trans (hahead ▸ hs)
  failed {e} h := by
    have hlexical := isLexical_of_failure h
    cases e with
    | tooDeeplyNested => exact hlexical.elim
    | _ => trivial
  deep hs := isBoundary_viewed hs
  unexpectedEnd _ _ _ := trivial
  unexpectedToken _ _ _ := trivial
  literal _ _ h := by
    rcases atom?_eq_error h with ⟨digits, -, -, rfl⟩ | ⟨body, escape, -, -, rfl⟩ <;> trivial
  fuel := trivial

/-- An error about a character, a number or a string is found by the scanner or in a literal. -/
theorem exists_standsAt_of_parse (h : parse text = .error e) (hlexical : e.IsLexical) :
    ∃ p before rest, e.StandsAt text p before rest := by
  rcases refuses_of_parse h with rfl | hrefuses
  · exact hlexical.elim
  · cases hrefuses with
    | failure hfailure => exact exists_standsAt_of_failure hfailure
    | literal hl hatom => exact exists_standsAt_of_literal hl hatom hlexical
    | unexpected hunexpected =>
      cases e with
      | unexpectedToken | unexpectedEnd => exact hlexical.elim
      | _ => exact hunexpected.elim
    | deep => exact hlexical.elim

theorem isBoundary_of_parse {limit p : ℕ} (h : parse text = .error (.tooDeeplyNested limit p)) :
    IsBoundary text p := by
  unfold parse at h
  split at h
  · cases h
  rcases stops_of_parseLexemes h with ⟨-, hfailure⟩ | ⟨s, hrun⟩
  · exact (isLexical_of_failure hfailure).elim
  · have hstops := (invariant_deepBetween text).keeps (fuelFor (lexemesOf text).lexemes.length)
      ⟨(lexemesOf text).lexemes, 0⟩ (List.suffix_refl _)
    rw [Ensures, hrun] at hstops
    exact hstops

end

/-- **Errors tell where they are.**  An error about a character, a number or a string tells the place of
the text where that is, and what is before it can be read.  An error about levels tells a place between
two characters. -/
theorem parse_error_located (text : String) :
    (∀ e p, parse text = .error e → e.IsLexical → e.position? = some p →
      ∃ before rest, e.StandsAt text p before rest) ∧
    ∀ limit p, parse text = .error (.tooDeeplyNested limit p) →
      IsBoundary text p ∧ p ≤ text.utf8ByteSize := by
  refine ⟨fun e p h hlexical hp => ?_, fun limit p h => ?_⟩
  · obtain ⟨q, before, rest, hstands⟩ := exists_standsAt_of_parse h hlexical
    have hq := hstands.fault.position?
    rw [hp, ← hstands.position, Option.some.injEq] at hq
    exact ⟨before, rest, hq ▸ hstands⟩
  · have hboundary := isBoundary_of_parse h
    exact ⟨hboundary, hboundary.le⟩

/-- Half a symbol behind an umlaut, a decimal that would be rounded up to a number that is too large, a
quote behind a backslash, and one parenthesis too many. -/
theorem parse_error_located_of_mistakes :
    (∃ before rest, (ParseError.unexpectedCharacter '&' 6).StandsAt "ä >= &" 6 before rest) ∧
    (∃ before rest, (ParseError.invalidNumber "79228162514264337593543950335.5" 6).StandsAt
      "1.5 < 79228162514264337593543950335.5" 6 before rest) ∧
    (∃ before rest, (ParseError.unterminatedString 7).StandsAt "'ü' + \"\\\"" 7 before rest) ∧
    IsBoundary (String.ofList (List.replicate 129 '(')) 129 ∧
      129 ≤ (String.ofList (List.replicate 129 '(')).utf8ByteSize :=
  ⟨(parse_error_located _).1 _ _ (by decide +kernel) trivial rfl,
    (parse_error_located _).1 _ _ (by decide +kernel) trivial rfl,
    (parse_error_located _).1 _ _ (by decide +kernel) trivial rfl,
    (parse_error_located _).2 128 129 (by decide +kernel)⟩

end ExprLang
