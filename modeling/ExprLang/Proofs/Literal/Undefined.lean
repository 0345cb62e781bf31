import ExprLang.Proofs.Literal.Escape
import ExprLang.Proofs.Parser.Refusal
import ExprLang.Proofs.Token.Failure
import ExprLang.Proofs.Token.Lossless

/-!
# Where the error of an undefined escape points

The body of a string literal is decoded from its front, and decoding ends at the first backslash that
begins no escape.  By then the place of the body in the text is not known any more; what is known is
where the literal begins.  So the error points at the opening quote of the literal, and the undefined
escape stands behind that quote and behind everything that could be decoded.

## Main definitions

* `Undefined body decoded sequence rest` — the first undefined escape of a body, and what is around it.

## Main results

* `exists_undefined` — where decoding a body ends.
* `invalidEscape_points_at_quote` — **the error points at the quote before the undefined escape**.

## References

The reference's `InvalidEscape`, and the position that `parse_primary` hands on.
-/

namespace ExprLang

variable {body decoded sequence rest e : List Char} {c ch : Char}

/-! ### Undefined escapes -/

/-- A body can be decoded up to a backslash with which no escape begins. -/
structure Undefined (body decoded sequence rest : List Char) : Prop where
  split : body = decoded ++ (sequence ++ rest)
  decodes : ∃ s, Decodes ReadEscape decoded s
  backslash : ∃ cs, sequence = '\\' :: cs
  undefined : ∀ e ch, ReadEscape e ch → ¬ e <+: sequence ++ rest

/-- An escape is a backslash with one character, or with a `u` and four. -/
theorem ReadEscape.shape (h : ReadEscape e ch) :
    (∃ c, c ≠ 'u' ∧ e = ['\\', c]) ∨ ∃ a b c d, e = ['\\', 'u', a, b, c, d] := by
  rcases h with h | h
  · cases h with
    | @codePoint ds _ hlength =>
      match ds, hlength with
      | [a, b, c, d], _ => exact .inr ⟨a, b, c, d, rfl⟩
    | _ => exact .inl ⟨_, by decide, rfl⟩
  · cases h with
    | @codePoint ds _ hlength =>
      match ds, hlength with
      | [b, c, d], _ => exact .inr ⟨'+', b, c, d, rfl⟩

/-- Behind a backslash and a `u` only a code point is an escape. -/
theorem ReadEscape.eq_of_prefix_u (h : ReadEscape e ch) (he : e <+: '\\' :: 'u' :: rest) :
    ∃ a b c d tail, rest = a :: b :: c :: d :: tail ∧ e = ['\\', 'u', a, b, c, d] := by
  obtain ⟨tail, htail⟩ := he
  rcases h.shape with ⟨c, hc, rfl⟩ | ⟨a, b, c, d, rfl⟩
  · cases htail
    exact absurd rfl hc
  · cases htail
    exact ⟨a, b, c, d, tail, rfl, rfl⟩

/-- Behind a backslash and another character there is nothing more to an escape. -/
theorem ReadEscape.eq_of_prefix (h : ReadEscape e ch) (hc : c ≠ 'u') (he : e <+: '\\' :: c :: rest) :
    e = ['\\', c] := by
  obtain ⟨tail, htail⟩ := he
  rcases h.shape with ⟨c', -, rfl⟩ | ⟨a, b, c', d, rfl⟩
  · cases htail
    rfl
  · cases htail
    exact absurd rfl hc

namespace Undefined

theorem here (hsplit : body = sequence ++ rest) (hback : ∃ cs, sequence = '\\' :: cs)
    (h : ∀ e ch, ReadEscape e ch → ¬ e <+: body) : Undefined body [] sequence rest :=
  ⟨hsplit, ⟨[], .nil⟩, hback, hsplit ▸ h⟩

theorem plain (h : Undefined body decoded sequence rest) (hc : c ≠ '\\') :
    Undefined (c :: body) (c :: decoded) sequence rest := by
  obtain ⟨s, hs⟩ := h.decodes
  exact ⟨by rw [h.split, List.cons_append], ⟨c :: s, .plain hc hs⟩, h.backslash, h.undefined⟩

theorem escape (h : Undefined body decoded sequence rest) (he : ReadEscape e ch) :
    Undefined (e ++ body) (e ++ decoded) sequence rest := by
  obtain ⟨s, hs⟩ := h.decodes
  exact ⟨by rw [h.split, List.append_assoc], ⟨ch :: s, .escape he hs⟩, h.backslash, h.undefined⟩

end Undefined

theorem eq_error_of_map {α β ε : Type} {f : α → β} {x : Except ε α} {error : ε}
    (h : x.map f = .error error) : x = .error error := by
  cases x with
  | error => exact congrArg Except.error (Except.error.inj h)
  | ok => cases h

/-- Decoding ends at the first undefined escape. -/
theorem exists_undefined (h : unescape body = .error sequence) :
    ∃ decoded rest, Undefined body decoded sequence rest := by
  -- what is decoded comes before what is undefined behind it; elsewhere decoding ends at once
  fun_induction unescape body generalizing sequence with
  | case1 => cases h
  | case2 a b c d rest ch hch ih =>
    obtain ⟨decoded, rest', h'⟩ := ih (eq_error_of_map h)
    exact ⟨_, _, h'.escape (charOfHex?_eq_some_iff.mp hch)⟩
  | case3 a b c d rest hnone =>
    cases h
    refine ⟨[], rest, .here rfl ⟨_, rfl⟩ fun e ch he hprefix => ?_⟩
    obtain ⟨_, _, _, _, _, hrest, rfl⟩ := he.eq_of_prefix_u hprefix
    cases hrest
    rw [charOfHex?_eq_some_iff.mpr he] at hnone
    cases hnone
  | case4 rest hshort =>
    cases h
    refine ⟨[], [], .here (List.append_nil _).symm ⟨_, rfl⟩ fun e ch he hprefix => ?_⟩
    obtain ⟨a, b, c, d, tail, rfl, -⟩ := he.eq_of_prefix_u hprefix
    exact hshort a b c d tail rfl
  | case5 c rest _ hc ch hch ih =>
    obtain ⟨decoded, rest', h'⟩ := ih (eq_error_of_map h)
    exact ⟨_, _, h'.escape ((simpleEscape?_eq_some_iff hc).mp hch)⟩
  | case6 c rest _ hc hnone =>
    cases h
    refine ⟨[], rest, .here rfl ⟨_, rfl⟩ fun e ch he hprefix => ?_⟩
    obtain rfl := he.eq_of_prefix hc hprefix
    rw [(simpleEscape?_eq_some_iff hc).mpr he] at hnone
    cases hnone
  | case7 =>
    cases h
    refine ⟨[], [], .here rfl ⟨_, rfl⟩ fun e ch he hprefix => ?_⟩
    rcases he.shape with ⟨c, -, rfl⟩ | ⟨a, b, c, d, rfl⟩ <;> simp at hprefix
  | case8 c rest _ _ hpair hlast ih =>
    obtain ⟨decoded, rest', h'⟩ := ih (eq_error_of_map h)
    refine ⟨_, _, h'.plain ?_⟩
    rintro rfl
    cases rest with
    | nil => exact hlast rfl rfl
    | cons d rest => exact hpair d rest rfl rfl

/-! ### Literals in a text -/

/-- What is at a place of a text is determined by the place. -/
theorem Cursor.In.rest_eq {c d : Cursor} {text : String} (hc : c.In text) (hd : d.In text)
    (h : c.offset = d.offset) : c.rest = d.rest := by
  have hslice := hc.slice_rest
  rw [h, hd.slice_rest] at hslice
  exact (String.ofList_injective hslice).symm

/-- A string of a text stands between its quotes at the place where it starts. -/
theorem exists_in_of_string {text body : String} {l : Lexeme}
    (hl : l ∈ (lexemesOf text).lexemes) (htoken : l.token = .string body) :
    ∃ quote after, (quote = '\'' ∨ quote = '"') ∧
      Cursor.In ⟨quote :: (body.toList ++ quote :: after), l.start⟩ text := by
  obtain ⟨c, hreads, -⟩ := (Cursor.start text).exists_reads_lexemes
  obtain ⟨d, after, gap, piece, hd, -, htaken⟩ :=
    hreads.exists_taken_of_mem (Cursor.in_start text) hl
  have hspells := htaken.spells
  rw [htoken] at hspells
  obtain ⟨quote, hquote, rfl⟩ := hspells
  refine ⟨quote, after.rest, hquote, ?_⟩
  have hin := htaken.in_start hd
  simpa only [List.cons_append, List.append_assoc, List.nil_append] using hin

/-- The error is that of a string of the text, and points at where the string starts. -/
theorem exists_string_of_invalidEscape {text sequence : String} {position : Nat}
    (h : parse text = .error (.invalidEscape sequence position)) :
    ∃ l ∈ (lexemesOf text).lexemes, ∃ body, l.token = .string body ∧
      unescape body.toList = .error sequence.toList ∧ l.start = position := by
  rcases refuses_of_parse h with hempty | hrefuses
  · cases hempty
  · cases hrefuses with
    | failure hfailure => exact (isLexical_of_failure hfailure).elim
    | unexpected hunexpected => exact hunexpected.elim
    | @literal _ l hl hatom =>
      rcases atom?_eq_error hatom with ⟨digits, -, -, heq⟩ | ⟨body, escape, htoken, hread, heq⟩
      · cases heq
      · cases heq
        exact ⟨l, hl, body, htoken, by rw [hread, String.toList_ofList], rfl⟩

/-- **The error points at the quote before the undefined escape.**  At its position a literal begins,
and its body can be decoded up to the undefined escape; the escape itself stands behind the quote and
what could be decoded.  There is never a backslash at the position of the error. -/
theorem invalidEscape_points_at_quote {text sequence : String} {position : Nat}
    (h : parse text = .error (.invalidEscape sequence position)) :
    ∃ quote body decoded rest after,
      (quote = '\'' ∨ quote = '"') ∧ Undefined body decoded sequence.toList rest ∧
        Cursor.In ⟨quote :: (body ++ quote :: after), position⟩ text ∧
        Cursor.In ⟨sequence.toList ++ (rest ++ quote :: after), position + 1 + byteLength decoded⟩
          text ∧
        ¬ ∃ cs, Cursor.In ⟨'\\' :: cs, position⟩ text := by
  obtain ⟨l, hl, body, htoken, hread, rfl⟩ := exists_string_of_invalidEscape h
  obtain ⟨quote, after, hquote, hin⟩ := exists_in_of_string hl htoken
  obtain ⟨decoded, rest, hundefined⟩ := exists_undefined hread
  refine ⟨quote, body.toList, decoded, rest, after, hquote, hundefined, hin, ?_, ?_⟩
  · -- a quote is a single byte
    have hsize : quote.utf8Size = 1 := by rcases hquote with rfl | rfl <;> rfl
    have hbody := hin.behind_cons rfl
    rw [hsize, hundefined.split] at hbody
    refine hbody.behind ?_
    simp only [List.append_assoc]
  · rintro ⟨cs, hback⟩
    cases hin.rest_eq hback rfl
    rcases hquote with hquote | hquote <;> cases hquote

/-- Before the escape there are a character of two bytes and an escape that is defined. -/
theorem invalidEscape_points_at_quote_of_umlaut :
    parse "a + 'ä\\n\\q'" = .error (.invalidEscape "\\q" 4) ∧
      ∃ quote body decoded rest after,
        (quote = '\'' ∨ quote = '"') ∧ Undefined body decoded ['\\', 'q'] rest ∧
          Cursor.In ⟨quote :: (body ++ quote :: after), 4⟩ "a + 'ä\\n\\q'" ∧
          Cursor.In ⟨['\\', 'q'] ++ (rest ++ quote :: after), 4 + 1 + byteLength decoded⟩
            "a + 'ä\\n\\q'" ∧
          ¬ ∃ cs, Cursor.In ⟨'\\' :: cs, 4⟩ "a + 'ä\\n\\q'" := by
  have hparse : parse "a + 'ä\\n\\q'" = .error (.invalidEscape "\\q" 4) := by decide +kernel
  exact ⟨hparse, invalidEscape_points_at_quote hparse⟩

/-- The backslash stands at byte 3, and the error points at byte 0. -/
theorem invalidEscape_misses_backslash :
    parse "'ab\\q'" = .error (.invalidEscape "\\q" 0) ∧
      Cursor.In ⟨['\\', 'q', '\''], 3⟩ "'ab\\q'" ∧ ¬ ∃ cs, Cursor.In ⟨'\\' :: cs, 0⟩ "'ab\\q'" := by
  refine ⟨by decide +kernel, ⟨['\'', 'a', 'b'], rfl, rfl⟩, ?_⟩
  rintro ⟨cs, hback⟩
  cases hback.rest_eq (Cursor.in_start _) rfl

end ExprLang
