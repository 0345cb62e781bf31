import ExprLang.Compiled
import ExprLang.Evaluation
import ExprLang.Proofs.Literal.Escape
import ExprLang.Proofs.Parser.Language
import ExprLang.Proofs.Token.Place

/-!
# Every string has a literal

A string is written between two quotes of one kind, with a backslash before each of its backslashes and
before each quote of that kind; the other kind of quote stands for itself, and the ends of lines and
tabs may be escaped or not.  The scanner of tokens looks for the quote behind the body, and the
decoder goes through the body again, each with an idea of its own of how long an escape is.  For what
is written so the two agree, and the literal is read as the string.

## Main definitions

* `Written q body s` — the body is a way to write the string between the quotes `q`.
* `literalText q body` — the literal.

## Main results

* `Written.stringBody?_append`, `Written.unescape` — what the scanner and the decoder find.
* `literal_reads_back` — **every string is read back from its literals**.

## References

`SPEC_FULL.md`, 10.1, on strings; the reference's `read_string` and `process_string_escapes`.
-/

namespace ExprLang

/-- The characters stand for the string between two quotes `q`. -/
inductive Written (q : Char) : List Char → List Char → Prop
  | nil : Written q [] []
  | backslash {body s : List Char} (h : Written q body s) :
    Written q ('\\' :: '\\' :: body) ('\\' :: s)
  | quote {body s : List Char} (h : Written q body s) : Written q ('\\' :: q :: body) (q :: s)
  | lineFeed {body s : List Char} (h : Written q body s) : Written q ('\\' :: 'n' :: body) ('\n' :: s)
  | tab {body s : List Char} (h : Written q body s) : Written q ('\\' :: 't' :: body) ('\t' :: s)
  | carriageReturn {body s : List Char} (h : Written q body s) :
    Written q ('\\' :: 'r' :: body) ('\r' :: s)
  | plain {c : Char} {body s : List Char} (hbackslash : c ≠ '\\') (hquote : c ≠ q)
    (h : Written q body s) : Written q (c :: body) (c :: s)

/-- A body between its quotes. -/
def literalText (q : Char) (body : List Char) : String := String.ofList (q :: (body ++ [q]))

theorem exists_written (q : Char) (s : List Char) : ∃ body, Written q body s := by
  induction s with
  | nil => exact ⟨[], .nil⟩
  | cons c s ih =>
    obtain ⟨body, h⟩ := ih
    by_cases hbackslash : c = '\\'
    · subst hbackslash
      exact ⟨_, h.backslash⟩
    by_cases hquote : c = q
    · subst hquote
      exact ⟨_, h.quote⟩
    · exact ⟨_, h.plain hbackslash hquote⟩

section

variable {q : Char} {body s : List Char}

/-! ### Scanning and decoding -/

theorem stringBody?_escaped (c : Char) (rest : List Char) :
    stringBody? q ('\\' :: c :: rest) = (stringBody? q rest).map fun body => '\\' :: c :: body := by
  rw [stringBody?]

theorem stringBody?_plain {c : Char} (hbackslash : c ≠ '\\') (hquote : c ≠ q) (rest : List Char) :
    stringBody? q (c :: rest) = (stringBody? q rest).map (c :: ·) := by
  rw [stringBody?, if_neg hquote] <;> intros <;> contradiction

theorem stringBody?_quote (hq : q ≠ '\\') (rest : List Char) :
    stringBody? q (q :: rest) = some [] := by
  rw [stringBody?, if_pos rfl] <;> intros <;> contradiction

/-- The quote that ends the literal is found behind the body, and not before. -/
theorem Written.stringBody?_append (h : Written q body s) (hq : q ≠ '\\') (rest : List Char) :
    stringBody? q (body ++ q :: rest) = some body := by
  induction h with
  | nil => exact stringBody?_quote hq rest
  | plain hbackslash hquote _ ih =>
    rw [List.cons_append, stringBody?_plain hbackslash hquote, ih]
    rfl
  | backslash _ ih | quote _ ih | lineFeed _ ih | tab _ ih | carriageReturn _ ih =>
    rw [List.cons_append, List.cons_append, stringBody?_escaped, ih]
    rfl

theorem Escape.of_quote (hq : q = '\'' ∨ q = '"') : Escape ['\\', q] q := by
  rcases hq with rfl | rfl
  · exact .singleQuote
  · exact .doubleQuote

theorem Written.decodes (h : Written q body s) (hq : q = '\'' ∨ q = '"') : Decodes Escape body s := by
  induction h with
  | nil => exact .nil
  | backslash _ ih => exact .escape .backslash ih
  | quote _ ih => exact .escape (.of_quote hq) ih
  | lineFeed _ ih => exact .escape .lineFeed ih
  | tab _ ih => exact .escape .tab ih
  | carriageReturn _ ih => exact .escape .carriageReturn ih
  | plain hbackslash _ _ ih => exact .plain hbackslash ih

/-- The body is decoded to the string. -/
theorem Written.unescape (h : Written q body s) (hq : q = '\'' ∨ q = '"') :
    ExprLang.unescape body = .ok s :=
  unescape_eq_ok_iff.mpr ((h.decodes hq).mono fun _ _ _ he => .inl he)

/-! ### The literal as a token -/

theorem scanToken_written (h : Written q body s) (hq : q = '\'' ∨ q = '"') (start : Nat) :
    scanToken start q (body ++ [q]) = (.ok (.string (String.ofList body)), body.length + 2) := by
  have hdigit : ¬ q.isDigit := by rcases hq with rfl | rfl <;> decide
  have hbackslash : q ≠ '\\' := by rcases hq with rfl | rfl <;> decide
  rw [scanToken, if_neg hdigit, if_pos hq, scanString, h.stringBody?_append hbackslash]

/-- The literal is a single token, which takes all of it. -/
theorem lexemesOf_literalText (h : Written q body s) (hq : q = '\'' ∨ q = '"') :
    lexemesOf (literalText q body) =
      ⟨[⟨.string (String.ofList body), 0, (literalText q body).utf8ByteSize⟩], none,
        (literalText q body).utf8ByteSize⟩ := by
  have hsize : (literalText q body).utf8ByteSize = byteLength (q :: (body ++ [q])) := by
    rw [literalText, ← byteLength_toList, String.toList_ofList]
  have hblank : isBlank q = false := by rcases hq with rfl | rfl <;> decide
  have hstart : (Cursor.start (literalText q body)).skipBlanks = ⟨q :: (body ++ [q]), 0⟩ := by
    simp [Cursor.start, Cursor.skipBlanks, literalText, hblank]
  -- behind the token nothing is left
  have hafter : Cursor.advance ⟨q :: (body ++ [q]), 0⟩ (body.length + 2) =
      ⟨[], byteLength (q :: (body ++ [q]))⟩ := by
    simp [Cursor.advance, List.take_of_length_le]
  have hnext : (Cursor.start (literalText q body)).next = .lexeme
      ⟨.string (String.ofList body), 0, byteLength (q :: (body ++ [q]))⟩
      ⟨[], byteLength (q :: (body ++ [q]))⟩ := by
    have hscan := scanToken_written h hq 0
    rw [Cursor.next_of_token (by rw [hstart]) (by rw [hstart]; exact hscan), hstart, hafter]
  have hend : Cursor.next ⟨[], byteLength (q :: (body ++ [q]))⟩ =
      .finished ⟨[], byteLength (q :: (body ++ [q]))⟩ := rfl
  rw [lexemesOf, Cursor.lexemes_of_lexeme hnext, Cursor.lexemes_of_finished hend, hsize]

/-! ### The literal as an expression -/

theorem maxDepth_pos : 0 < maxDepth := by decide

/-- A single token that is an expression is read as it, far from the limit on levels. -/
theorem parseLexemes_atom {t : Token} {e : Expr} (h : Atom t e) (start stop fin : Nat) :
    parseLexemes ⟨[⟨t, start, stop⟩], none, fin⟩ = .ok e := by
  have hread : Ensures (wholeExpression ⟨[⟨t, start, stop⟩], none, fin⟩ (fuelFor 1))
      (fun e' _ => e' = e) (fun _ _ => False) ⟨[⟨t, start, stop⟩], 0⟩ := by
    rw [wholeExpression, ensures_bind, fuelFor, expression]
    refine ensures_nested (fun _ => ?_) fun hdepth => absurd maxDepth_pos hdepth
    rw [unary, primary]
    simp only [Parser.plain]
    rw [ensures_bind, ensures_bind, ensures_peek]
    -- an atom is none of the operators before an operand
    split
    · rename_i ht
      cases ht
      cases h
    · rename_i ht
      cases ht
      cases h
    rw [ensures_bind, ensures_bind, ensures_ahead]
    change Ensures (advance _ >>= _) _ _ ⟨[⟨t, start, stop⟩], 1⟩
    rw [ensures_bind]
    refine ensures_advance rfl (fun _ => ?_) fun error _ herror => by cases herror
    -- the end is in view, so that both loops are done
    have hend : (ParserState.tokens ⟨[], 1⟩).head? = none := rfl
    rw [atom?_eq_some_iff.mpr h, ensures_pure, members]
    simp only [Parser.plain]
    rw [ensures_bind, ensures_peek, hend, if_neg (by simp), if_neg (by simp), ensures_pure, operators]
    simp only [Parser.plain]
    rw [ensures_bind, ensures_peek, hend]
    rfl
  unfold parseLexemes
  unfold Ensures at hread
  rw [EStateM.run]
  dsimp only [List.length_cons, List.length_nil]
  cases hrun : (wholeExpression ⟨[⟨t, start, stop⟩], none, fin⟩ (fuelFor (0 + 1)) : Parser Expr)
      ⟨[⟨t, start, stop⟩], 0⟩ with
  | ok e' s' =>
    rw [hrun] at hread
    exact congrArg Except.ok hread
  | error e' s' =>
    rw [hrun] at hread
    exact hread.elim

theorem parse_literalText (h : Written q body s) (hq : q = '\'' ∨ q = '"') :
    parse (literalText q body) = .ok (.literal (.string (String.ofList s))) := by
  have hblank : ¬ isBlankText (literalText q body) := by
    rw [isBlankText, literalText, String.toList_ofList, List.all_cons]
    have hquote : isBlank q = false := by rcases hq with rfl | rfl <;> rfl
    simp [hquote]
  have hread : unescape (String.ofList body).toList = .ok s := by
    rw [String.toList_ofList]
    exact h.unescape hq
  rw [parse, if_neg hblank, lexemesOf_literalText h hq]
  exact parseLexemes_atom (.string hread) _ _ _

end

/-- **Every string is read back from its literals.**  There is one for each kind of quote, and whichever
is written, it is a single token that takes the whole text, it is compiled, and its value is the
string in every context. -/
theorem literal_reads_back (s : String) {q : Char} (hq : q = '\'' ∨ q = '"') :
    (∃ body, Written q body s.toList) ∧
      ∀ body, Written q body s.toList →
        lexemesOf (literalText q body) =
            ⟨[⟨.string (String.ofList body), 0, (literalText q body).utf8ByteSize⟩], none,
              (literalText q body).utf8ByteSize⟩ ∧
          ∃ c, Compiled.ofText (literalText q body) = .ok c ∧
            ∀ context, c.tree.eval context = .ok (.string s) := by
  refine ⟨exists_written q s.toList, fun body h => ⟨lexemesOf_literalText h hq, ?_⟩⟩
  refine ⟨⟨literalText q body, .literal (.string s)⟩, ?_, fun context => rfl⟩
  have hparse := parse_literalText h hq
  rw [String.ofList_toList] at hparse
  rw [Compiled.ofText, hparse]
  rfl

/-- A quote of each kind, a backslash before the one that needs it, and the end of a line. -/
theorem literal_reads_back_of_quotes :
    Written '\'' ['"', 'ä', '\\', '\\', '\\', '\'', '\\', 'n', '\n'] "\"ä\\'\n\n".toList ∧
      ∃ c, Compiled.ofText
          (literalText '\'' ['"', 'ä', '\\', '\\', '\\', '\'', '\\', 'n', '\n']) = .ok c ∧
        ∀ context, c.tree.eval context = .ok (.string "\"ä\\'\n\n") := by
  have hs : "\"ä\\'\n\n".toList = ['"', 'ä', '\\', '\'', '\n', '\n'] := by decide +kernel
  have hwritten : Written '\'' ['"', 'ä', '\\', '\\', '\\', '\'', '\\', 'n', '\n']
      "\"ä\\'\n\n".toList := by
    rw [hs]
    refine .plain (by decide) (by decide) (.plain (by decide) (by decide) ?_)
    exact .backslash (.quote (.lineFeed (.plain (by decide) (by decide) .nil)))
  exact ⟨hwritten, ((literal_reads_back _ (.inl rfl)).2 _ hwritten).2⟩

end ExprLang
