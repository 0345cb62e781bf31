import ExprLang.Proofs.Literal.Undefined
import ExprLang.Proofs.Parser.Located

/-!
# Where escapes end

The body of a string is gone through twice.  The scanner looks for the quote behind it, and takes each
backslash together with one character, whatever that is.  The decoder takes a backslash together with a
character as well, but with a `u` it takes four characters more, which the scanner has taken one by one.
If one of these four could be a backslash, the two would not agree any more on which backslash begins an
escape, and the decoder might be left with a backslash and nothing behind it.

None of them can: what is neither a digit nor a plus sign ends decoding at once.  So wherever the decoder
comes to, the scanner was between two escapes there, and as it was so at the end of the body, the decoder
never meets a backslash that is the last character.

## Main definitions

* `Quoted text l quote body` — where the scanner has found the body of a string.

## Main results

* `exists_quoted` — a string of a text ends before the first quote that is not escaped.
* `Decodes.dangles` — **the decoder stops only where the scanner does**.
* `strings_end_between_escapes` — both for the strings of a text, of which none ends inside an escape.

## References

The reference's `read_string` and `process_string_escapes`, which go over the same characters.
-/

namespace ExprLang

section

variable {quote c ch : Char} {cs e inner rest body decoded s : List Char} {n : ℕ}

/-! ### Where the scanner is between two escapes -/

/-- Between two escapes the scanner goes on as it would begin. -/
theorem dangles_append (h : dangles cs = false) (rest : List Char) :
    dangles (cs ++ rest) = dangles rest := by
  fun_induction dangles cs with
  | case1 => rfl
  | case2 => cases h
  | case3 c cs ih => exact ih h
  | case4 c cs hone hescape ih =>
    rw [List.cons_append, dangles_plain (ne_backslash hone hescape)]
    exact ih h

theorem dangles_of_not_mem (h : '\\' ∉ cs) : dangles cs = false := by
  induction cs with
  | nil => rfl
  | cons c cs ih =>
    rw [List.mem_cons, not_or] at h
    rw [dangles_plain (Ne.symm h.1)]
    exact ih h.2

theorem dangles_eq_false_iff : dangles cs = false ↔ Even (trailingBackslashes cs) := by
  rw [← Nat.not_odd_iff_even, ← dangles_iff, Bool.not_eq_true]

/-- A quote that is not bare has a backslash before it that takes it along. -/
theorem dangles_of_hasBare (hquote : quote ≠ '\\') (h : hasBare quote (inner ++ quote :: rest) = false) :
    dangles inner := by
  fun_induction dangles inner with
  | case1 =>
    rw [List.nil_append, hasBare_plain hquote, beq_self_eq_true] at h
    cases h
  | case2 => rfl
  | case3 c inner ih => exact ih h
  | case4 c inner hone hescape ih =>
    rw [List.cons_append, hasBare_plain (ne_backslash hone hescape), Bool.or_eq_false_iff] at h
    exact ih h.2

/-! ### Where the decoder comes to -/

theorem HexDigit.ne_backslash {k : ℕ} (h : HexDigit k c) : c ≠ '\\' := by
  rintro rfl
  cases hexDigit?_eq_some_iff.mpr h

theorem HexNumber.not_mem_backslash (h : HexNumber cs n) : '\\' ∉ cs := by
  induction h with
  | none => exact List.not_mem_nil
  | digit _ hd ih =>
    rw [List.mem_append, List.mem_singleton, not_or]
    exact ⟨ih, Ne.symm hd.ne_backslash⟩

/-- None of the characters that an escape of the decoder has beyond one of the scanner's is a backslash. -/
theorem ReadEscape.dangles (h : ReadEscape e ch) : dangles e = false := by
  have hcodePoint : ∀ ds : List Char, '\\' ∉ ds → ExprLang.dangles ('\\' :: 'u' :: ds) = false :=
    fun ds hds => show ExprLang.dangles ds = false from dangles_of_not_mem hds
  rcases h with h | h
  · cases h with
    | codePoint _ hnumber => exact hcodePoint _ hnumber.not_mem_backslash
    | _ => rfl
  · cases h with
    | codePoint _ hnumber =>
      refine hcodePoint _ ?_
      rw [List.mem_cons, not_or]
      exact ⟨by decide, hnumber.not_mem_backslash⟩

/-- **The decoder stops only where the scanner does.**  Whatever has been decoded, the scanner was
between two escapes behind it. -/
theorem Decodes.dangles (h : Decodes ReadEscape decoded s) : dangles decoded = false := by
  induction h with
  | nil => rfl
  | plain hc _ ih => exact (dangles_plain hc).trans ih
  | escape he _ ih => exact (dangles_append he.dangles _).trans ih

/-- Behind what it has decoded the decoder goes on with the rest. -/
theorem Decodes.unescape_append (h : Decodes ReadEscape decoded s) (rest : List Char) :
    unescape (decoded ++ rest) = (unescape rest).map (s ++ ·) := by
  induction h with
  | nil =>
    rw [List.nil_append]
    cases unescape rest <;> rfl
  | plain hc _ ih =>
    rw [List.cons_append, unescape_plain hc, ih]
    cases unescape rest <;> rfl
  | escape he _ ih =>
    rw [List.append_assoc, unescape_escape he, ih]
    cases unescape rest <;> rfl

/-- A backslash with nothing behind it is met only in a body that the scanner would leave inside an
escape. -/
theorem dangles_of_unescape (h : unescape body = .error ['\\']) : dangles body := by
  fun_induction unescape body with
  | case1 | case3 | case4 | case6 => cases h
  | case2 a b c d rest ch hch ih =>
    have he := (charOfHex?_eq_some_iff.mp hch).dangles
    exact (dangles_append he rest).trans (ih (eq_error_of_map h))
  | case5 c rest _ hc ch hch ih => exact ih (eq_error_of_map h)
  | case7 => rfl
  | case8 c rest _ _ hescape hone ih =>
    exact (dangles_plain (ne_backslash hone hescape)).trans (ih (eq_error_of_map h))

end

/-! ### Strings of a text -/

/-- The body of the string that a lexeme has stands in the text between two quotes.  The second one is
the first quote of its kind behind the other that is not escaped: that takes along what comes behind it
which is the last of an odd number of backslashes. -/
structure Quoted (text : String) (l : Lexeme) (quote : Char) (body : List Char) : Prop where
  kind : quote = '\'' ∨ quote = '"'
  place : ∃ after, Cursor.In ⟨quote :: (body ++ quote :: after), l.start⟩ text
  stop : l.stop = l.start + (1 + byteLength body + 1)
  escaped : ∀ inner rest, body = inner ++ quote :: rest → Odd (trailingBackslashes inner)
  complete : Even (trailingBackslashes body)

/-- A string ends before the first quote of its kind that is not escaped. -/
theorem exists_quoted {text body : String} {l : Lexeme} (hl : l ∈ (lexemesOf text).lexemes)
    (htoken : l.token = .string body) : ∃ quote, Quoted text l quote body.toList := by
  -- the cursor `d` from which the token was read, and the blanks it skipped first
  obtain ⟨c, hreads, -⟩ := (Cursor.start text).exists_reads_lexemes
  obtain ⟨front, d, after, -, hfront, hnext⟩ := hreads.exists_of_mem hl
  have hd := (hfront.in_end (Cursor.in_start text)).skipBlanks
  obtain ⟨gap, piece, hgap, hcut, hleads⟩ := Cursor.exists_leads hnext
  have hrest : d.skipBlanks.rest = piece ++ after.rest := by
    rw [Cursor.skipBlanks, hcut]
    exact dropWhile_append_eq (List.all_eq_true.mp hgap) hleads.head_not_isBlank
  rw [htoken] at hleads
  obtain ⟨quote, hquote, rfl, hbare, hdangles⟩ := hleads.exists_quote
  have hbackslash : quote ≠ '\\' := by rcases hquote with rfl | rfl <;> decide
  refine ⟨quote, hquote, ⟨after.rest, ?_⟩, ?_, ?_, dangles_eq_false_iff.mp hdangles⟩
  -- where the literal stands in the text
  · obtain ⟨before, htext, hoffset⟩ := hd
    refine ⟨before, ?_, (Cursor.start_of_next hnext).trans hoffset⟩
    rw [htext, hrest, List.cons_append, List.append_assoc, List.singleton_append]
  -- its length: the body and two quotes of one byte each
  · obtain ⟨gap', piece', htaken⟩ := Cursor.exists_taken hnext
    have hspells := htaken.spells
    rw [htoken] at hspells
    obtain ⟨quote', hquote', rfl⟩ := hspells
    have hsize : quote'.utf8Size = 1 := by rcases hquote' with rfl | rfl <;> rfl
    rw [htaken.stop, byteLength_cons, byteLength_append, byteLength_cons, hsize, byteLength_nil]
    omega
  -- a quote within the body is escaped, for the body has no bare one
  · intro inner rest hinner
    rw [hinner] at hbare
    exact (dangles_iff inner).mp (dangles_of_hasBare hbackslash hbare)

section

variable {text body : String} {l : Lexeme} (hl : l ∈ (lexemesOf text).lexemes)
  (htoken : l.token = .string body)
include hl htoken

/-- A string does not end inside an escape. -/
theorem not_dangles_of_string : dangles body.toList = false := by
  obtain ⟨quote, hquoted⟩ := exists_quoted hl htoken
  exact dangles_eq_false_iff.mpr hquoted.complete

theorem ne_backslash_of_decodes {decoded rest s : List Char} (hbody : body.toList = decoded ++ rest)
    (hs : Decodes ReadEscape decoded s) : rest ≠ ['\\'] := by
  rintro rfl
  have hdangles := not_dangles_of_string hl htoken
  rw [hbody, dangles_append hs.dangles] at hdangles
  cases hdangles

/-- The decoder is not left with a backslash alone. -/
theorem unescape_ne_backslash : unescape body.toList ≠ .error ['\\'] := by
  intro h
  have hdangles := dangles_of_unescape h
  rw [not_dangles_of_string hl htoken] at hdangles
  cases hdangles

end

/-- **The scanner and the decoder agree on where escapes end.**  A string ends right before the first
quote of its kind that is not escaped, has no such quote in it, and does not end inside an escape.
Wherever the decoder comes to, no backslash before takes along what is next, and what is left is not a
backslash alone.  So that is never what is wrong with an escape of a text. -/
theorem strings_end_between_escapes (text : String) :
    (∀ l ∈ (lexemesOf text).lexemes, ∀ body, l.token = .string body →
      (∃ quote, Quoted text l quote body.toList) ∧
      (∀ decoded rest s, body.toList = decoded ++ rest → Decodes ReadEscape decoded s →
        unescape body.toList = (unescape rest).map (s ++ ·) ∧
          Even (trailingBackslashes decoded) ∧ rest ≠ ['\\']) ∧
      unescape body.toList ≠ .error ['\\']) ∧
    ∀ position, parse text ≠ .error (.invalidEscape "\\" position) := by
  refine ⟨fun l hl body htoken => ⟨exists_quoted hl htoken, ?_, ?_⟩, fun position h => ?_⟩
  · intro decoded rest s hbody hs
    exact ⟨hbody ▸ hs.unescape_append rest, dangles_eq_false_iff.mp hs.dangles,
      ne_backslash_of_decodes hl htoken hbody hs⟩
  · exact unescape_ne_backslash hl htoken
  · obtain ⟨l, hl, body, htoken, hread, -⟩ := exists_string_of_invalidEscape h
    exact unescape_ne_backslash hl htoken hread

/-- A `u` that is short of digits, and a quote that is escaped where the decoder still looks for them: both
characters of this escape are among the four that the decoder takes. -/
theorem strings_end_between_escapes_of_short_code_point :
    (∃ quote, Quoted "'\\n\\u1\\'2' + x" ⟨.string "\\n\\u1\\'2", 0, 10⟩ quote
        "\\n\\u1\\'2".toList) ∧
      unescape "\\n\\u1\\'2".toList = (unescape "\\u1\\'2".toList).map (['\n'] ++ ·) ∧
      unescape "\\u1\\'2".toList = .error ['\\', 'u', '1', '\\', '\'', '2'] ∧
      unescape "\\n\\u1\\'2".toList ≠ .error ['\\'] ∧
      parse "'\\n\\u1\\'2' + x" ≠ .error (.invalidEscape "\\" 0) := by
  obtain ⟨hstrings, hparse⟩ := strings_end_between_escapes "'\\n\\u1\\'2' + x"
  have hlexeme : ⟨.string "\\n\\u1\\'2", 0, 10⟩ ∈ (lexemesOf "'\\n\\u1\\'2' + x").lexemes := by
    decide +kernel
  have hdecodes : Decodes ReadEscape ['\\', 'n'] ['\n'] := unescape_eq_ok_iff.mp rfl
  obtain ⟨hquoted, hplaces, hdecoder⟩ := hstrings _ hlexeme _ rfl
  obtain ⟨hrest, -, -⟩ := hplaces ['\\', 'n'] "\\u1\\'2".toList ['\n'] rfl hdecodes
  exact ⟨hquoted, hrest, by decide +kernel, hdecoder, hparse 0⟩

end ExprLang
