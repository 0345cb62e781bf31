import ExprLang.ParseError
import ExprLang.Text.Blank
import ExprLang.Text.NameChar

/-!
# Reading tokens

A text is read token by token, from the left, over the blanks between them.  Each kind of token is
recognised by its first character and takes as many characters as it can.

Every scanner answers with a token or an error, together with the number of characters it has
consumed; the errors that stand inside a token consume what they have looked at.

## Main definitions

* `scanToken` — the token at the front of some characters.
* `Cursor`, `Cursor.next` — reading on from a place in a text.
* `Cursor.lexemes`, `lexemesOf` — all tokens up to the end or the first error.

## References

`SPEC_FULL.md`, 10.1; the reference's `Tokenizer`, with `read_identifier`, `read_number`,
`read_string`, `read_prefixed_name`, `next_token` and `tokenize_all`.
-/

namespace ExprLang

/-- The number of bytes that characters take in UTF-8. -/
def byteLength (cs : List Char) : Nat := cs.foldr (fun c n => c.utf8Size + n) 0

@[simp] theorem byteLength_nil : byteLength [] = 0 := rfl

@[simp] theorem byteLength_cons (c : Char) (cs : List Char) :
    byteLength (c :: cs) = c.utf8Size + byteLength cs := rfl

theorem byteLength_append (cs ds : List Char) :
    byteLength (cs ++ ds) = byteLength cs + byteLength ds := by
  induction cs with
  | nil => simp
  | cons c cs ih => simp [ih, Nat.add_assoc]

/-! ### The scanners -/

/-- What a scanner found, and how many characters it consumed. -/
abbrev Scanned := Except ParseError Token × Nat

/-- A number: digits, and if a point and a further digit follow, all digits after the point. -/
def scanNumber (start : Nat) (cs : List Char) : Scanned :=
  let whole := cs.takeWhile Char.isDigit
  let asInteger : Scanned :=
    match Integer.read? whole with
    | some n => (.ok (.integer n), whole.length)
    | none => (.error (.invalidNumber (String.ofList whole) start), whole.length)
  match cs.dropWhile Char.isDigit with
  | '.' :: d :: rest =>
    if d.isDigit then
      let places := d :: rest.takeWhile Char.isDigit
      (.ok (.decimal (String.ofList (whole ++ '.' :: places))), whole.length + 1 + places.length)
    else asInteger
  | _ => asInteger

section

variable {start : Nat} {cs : List Char}

/-- A number with a point goes on over the digits behind it. -/
theorem scanNumber_of_point {d : Char} {rest : List Char}
    (hrest : cs.dropWhile Char.isDigit = '.' :: d :: rest) (hd : d.isDigit) :
    scanNumber start cs =
      (.ok (.decimal (String.ofList
        (cs.takeWhile Char.isDigit ++ '.' :: d :: rest.takeWhile Char.isDigit))),
        (cs.takeWhile Char.isDigit ++ '.' :: d :: rest.takeWhile Char.isDigit).length) := by
  unfold scanNumber
  simp only [hrest, hd, if_true, List.length_append, List.length_cons, Prod.mk.injEq, true_and]
  omega

/-- A number without a point, or with a point that no digit follows, is the digits before. -/
theorem scanNumber_of_digits
    (hrest : ¬ ∃ d rest, cs.dropWhile Char.isDigit = '.' :: d :: rest ∧ d.isDigit) :
    scanNumber start cs =
      ((Integer.read? (cs.takeWhile Char.isDigit)).elim
        (.error (.invalidNumber (String.ofList (cs.takeWhile Char.isDigit)) start))
        (fun n => .ok (.integer n)), (cs.takeWhile Char.isDigit).length) := by
  unfold scanNumber
  dsimp only
  split
  · rename_i d rest hpoint
    rw [if_neg fun hd => hrest ⟨d, rest, hpoint, hd⟩]
    cases Integer.read? (cs.takeWhile Char.isDigit) <;> rfl
  · cases Integer.read? (cs.takeWhile Char.isDigit) <;> rfl

end

/-- The characters before the first `quote` that no backslash stands before; a backslash takes the
next character with it, whatever that is. -/
def stringBody? (quote : Char) : List Char → Option (List Char)
  | [] => none
  | ['\\'] => none
  | '\\' :: c :: rest => (stringBody? quote rest).map fun body => '\\' :: c :: body
  | c :: rest => if c = quote then some [] else (stringBody? quote rest).map (c :: ·)

/-- A string that opens with `quote`; without its other quote it takes all that is left. -/
def scanString (start : Nat) (quote : Char) (rest : List Char) : Scanned :=
  match stringBody? quote rest with
  | some body => (.ok (.string (String.ofList body)), body.length + 2)
  | none => (.error (.unterminatedString start), rest.length + 1)

/-- The name at the front of some characters; empty if there is none. -/
def nameAt : List Char → List Char
  | [] => []
  | c :: rest => if isNameStart c then c :: rest.takeWhile isNameChar else []

/-- A name behind the character `marker`. -/
def scanMarked (start : Nat) (marker : Char) (token : String → Token) (rest : List Char) :
    Scanned :=
  match nameAt rest with
  | [] => (.error (.unexpectedCharacter marker start), 1)
  | c :: cs => (.ok (token (String.ofList (c :: cs))), cs.length + 2)

/-- The token a bare word stands for: one of the reserved words, or a name. -/
def wordToken (word : String) : Token :=
  if word = "true" then .boolean true
  else if word = "false" then .boolean false
  else if word = "null" then .null
  else if word = "and" then .operator .and
  else if word = "or" then .operator .or
  else if word = "not" then .not
  else if word = "matches" then .operator .fullMatch
  else .identifier word

/-- The symbol of two characters, if two characters make one. -/
def symbolOfTwo? (c d : Char) : Option Token :=
  match c, d with
  | '=', '=' => some (.operator .equal)
  | '!', '=' => some (.operator .notEqual)
  | '<', '=' => some (.operator .lessThanOrEqual)
  | '>', '=' => some (.operator .greaterThanOrEqual)
  | '&', '&' => some (.operator .and)
  | '|', '|' => some (.operator .or)
  | '?', ':' => some .elvis
  | '?', '.' => some .safeDot
  | _, _ => none

/-- The symbol of one character, if it is one. -/
def symbolOfOne? : Char → Option Token
  | '+' => some (.operator .add)
  | '-' => some (.operator .subtract)
  | '*' => some (.operator .multiply)
  | '/' => some (.operator .divide)
  | '%' => some (.operator .modulo)
  | '<' => some (.operator .lessThan)
  | '>' => some (.operator .greaterThan)
  | '!' => some .not
  | '?' => some .question
  | ':' => some .colon
  | '.' => some .dot
  | ',' => some .comma
  | '(' => some .leftParen
  | ')' => some .rightParen
  | '[' => some .leftBracket
  | ']' => some .rightBracket
  | '\x7b' => some .leftBrace
  | '\x7d' => some .rightBrace
  | _ => none

/-- A symbol, the longer one where two are possible. -/
def scanSymbol (start : Nat) (c : Char) (rest : List Char) : Scanned :=
  match rest.head?.bind (symbolOfTwo? c) with
  | some t => (.ok t, 2)
  | none =>
    match symbolOfOne? c with
    | some t => (.ok t, 1)
    | none => (.error (.unexpectedCharacter c start), 0)

/-- The token that starts with the character `c`, before which the text has `start` bytes. -/
def scanToken (start : Nat) (c : Char) (rest : List Char) : Scanned :=
  if c.isDigit then scanNumber start (c :: rest)
  else if c = '\'' ∨ c = '"' then scanString start c rest
  else if c = '#' then scanMarked start c .binding rest
  else if c = '@' then scanMarked start c .component rest
  else if isNameStart c then
    (.ok (wordToken (String.ofList (nameAt (c :: rest)))), (nameAt (c :: rest)).length)
  else scanSymbol start c rest

/-! ### Going through a text -/

/-- A place in a text: what is still to be read, and the number of bytes before it. -/
structure Cursor where
  rest : List Char
  offset : Nat
  deriving Repr

/-- The front of a text. -/
def Cursor.start (text : String) : Cursor := ⟨text.toList, 0⟩

/-- The place `n` characters further on. -/
def Cursor.advance (c : Cursor) (n : Nat) : Cursor :=
  ⟨c.rest.drop n, c.offset + byteLength (c.rest.take n)⟩

/-- The place of the next character that is no blank. -/
def Cursor.skipBlanks (c : Cursor) : Cursor :=
  ⟨c.rest.dropWhile isBlank, c.offset + byteLength (c.rest.takeWhile isBlank)⟩

/-- What comes next in a text, and the place after it. -/
inductive Step
  /-- Nothing but blanks was left. -/
  | finished (after : Cursor)
  | lexeme (l : Lexeme) (after : Cursor)
  | failed (e : ParseError) (after : Cursor)

/-- Reads the next token. -/
def Cursor.next (c : Cursor) : Step :=
  let c := c.skipBlanks
  match c.rest with
  | [] => .finished c
  | ch :: rest =>
    match scanToken c.offset ch rest with
    | (.ok token, n) =>
      let after := c.advance n
      .lexeme ⟨token, c.offset, after.offset⟩ after
    | (.error e, n) => .failed e (c.advance n)

section

variable {c : Cursor} {ch : Char} {rest : List Char} {n : Nat}

theorem Cursor.next_of_end (hrest : c.skipBlanks.rest = []) : c.next = .finished c.skipBlanks := by
  unfold next
  simp only [hrest]

theorem Cursor.next_of_token (hrest : c.skipBlanks.rest = ch :: rest) {t : Token}
    (h : scanToken c.skipBlanks.offset ch rest = (.ok t, n)) :
    c.next = .lexeme ⟨t, c.skipBlanks.offset, (c.skipBlanks.advance n).offset⟩
      (c.skipBlanks.advance n) := by
  unfold next
  simp only [hrest, h]

theorem Cursor.next_of_error (hrest : c.skipBlanks.rest = ch :: rest) {e : ParseError}
    (h : scanToken c.skipBlanks.offset ch rest = (.error e, n)) :
    c.next = .failed e (c.skipBlanks.advance n) := by
  unfold next
  simp only [hrest, h]

end

/-- The tokens of a text as far as they can be read. -/
structure Lexemes where
  lexemes : List Lexeme
  /-- The error that ends them, if it is not the end of the text. -/
  failure : Option ParseError
  /-- The place where reading stopped. -/
  stop : Nat
  deriving Repr

/-! ### A token takes at least one character -/

theorem length_dropWhile_le (p : Char → Bool) (cs : List Char) :
    (cs.dropWhile p).length ≤ cs.length := by
  induction cs with
  | nil => simp
  | cons c cs ih =>
    rw [List.dropWhile_cons]
    split
    · exact Nat.le_succ_of_le ih
    · exact Nat.le_refl _

theorem scanNumber_pos {start n : Nat} {c : Char} {rest : List Char} {t : Token}
    (hc : c.isDigit) (h : scanNumber start (c :: rest) = (.ok t, n)) : 0 < n := by
  have hlen : 0 < ((c :: rest).takeWhile Char.isDigit).length := by
    simp [hc]
  unfold scanNumber at h
  simp only at h
  repeat' split at h
  all_goals simp only [Prod.mk.injEq, reduceCtorEq, false_and] at h
  all_goals
    obtain ⟨-, rfl⟩ := h
    omega

theorem scanToken_pos {start n : Nat} {c : Char} {rest : List Char} {t : Token}
    (h : scanToken start c rest = (.ok t, n)) : 0 < n := by
  unfold scanToken at h
  split at h
  · rename_i hc
    exact scanNumber_pos hc h
  split at h
  · unfold scanString at h
    split at h <;> simp only [Prod.mk.injEq, reduceCtorEq, false_and] at h
    omega
  split at h
  · unfold scanMarked at h
    split at h <;> simp only [Prod.mk.injEq, reduceCtorEq, false_and] at h
    omega
  split at h
  · unfold scanMarked at h
    split at h <;> simp only [Prod.mk.injEq, reduceCtorEq, false_and] at h
    omega
  split at h
  · rename_i hc
    simp only [Prod.mk.injEq] at h
    rw [← h.2, nameAt, if_pos hc]
    exact Nat.succ_pos _
  · unfold scanSymbol at h
    split at h
    · simp only [Prod.mk.injEq] at h
      omega
    · split at h <;> simp only [Prod.mk.injEq, reduceCtorEq, false_and] at h
      omega

/-- Reading a token leaves less to read. -/
theorem Cursor.length_rest_lt_of_next {c after : Cursor} {l : Lexeme}
    (h : c.next = .lexeme l after) : after.rest.length < c.rest.length := by
  unfold Cursor.next at h
  simp only at h
  split at h
  · simp at h
  · rename_i ch rest hrest
    split at h
    · rename_i t n hscan
      simp only [Step.lexeme.injEq] at h
      rw [← h.2]
      have hpos := scanToken_pos hscan
      have hle : (ch :: rest).length ≤ c.rest.length := by
        rw [← hrest]
        exact length_dropWhile_le _ _
      simp only [Cursor.advance, hrest, List.length_drop] at hle ⊢
      simp only [List.length_cons] at hle ⊢
      omega
    · simp at h

/-- All tokens from a place on. -/
def Cursor.lexemes (c : Cursor) : Lexemes :=
  match _h : c.next with
  | .finished after => ⟨[], none, after.offset⟩
  | .failed e after => ⟨[], some e, after.offset⟩
  | .lexeme l after =>
    let r := lexemes after
    { r with lexemes := l :: r.lexemes }
termination_by c.rest.length
decreasing_by exact Cursor.length_rest_lt_of_next _h

section

variable {c after : Cursor}

theorem Cursor.lexemes_of_finished (h : c.next = .finished after) :
    c.lexemes = ⟨[], none, after.offset⟩ := by
  rw [lexemes]
  split <;> simp_all

theorem Cursor.lexemes_of_failed {e : ParseError} (h : c.next = .failed e after) :
    c.lexemes = ⟨[], some e, after.offset⟩ := by
  rw [lexemes]
  split <;> simp_all

theorem Cursor.lexemes_of_lexeme {l : Lexeme} (h : c.next = .lexeme l after) :
    c.lexemes = { after.lexemes with lexemes := l :: after.lexemes.lexemes } := by
  rw [lexemes]
  split <;> simp_all

end

/-- All tokens of a text. -/
def lexemesOf (text : String) : Lexemes := (Cursor.start text).lexemes

end ExprLang
