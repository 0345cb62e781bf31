import ExprLang.Token.Scan

/-!
# Reading by bytes

A text lies in memory as bytes, and reading it by them is another way to its tokens: the reader keeps
the number of the byte that it has come to, and moves on by the bytes of what it has seen, one for each
digit and each character of a symbol, and those of the character otherwise.  What it sees are slices of
the text.  A slice starts and ends between characters; where one would not, there is none, and reading
breaks off without an answer.

## Main definitions

* `IsBoundary`, `slice`, `slice?` — the places between characters, and the text between two of them.
* `ByteReader.next?` — what comes next from a byte on, and the byte after it.

## References

The reference's `Tokenizer`, with `peek_char`, `peek_second` and the position that it keeps.
-/

namespace ExprLang

/-- The byte begins a character, or ends the text. -/
def IsBoundary (text : String) (i : Nat) : Prop := String.Pos.Raw.IsValid text ⟨i⟩

instance (text : String) (i : Nat) : Decidable (IsBoundary text i) :=
  inferInstanceAs (Decidable (String.Pos.Raw.IsValid text ⟨i⟩))

/-- The text from byte `i` up to byte `j`. -/
def slice (text : String) (i j : Nat) : String := String.Pos.Raw.extract text ⟨i⟩ ⟨j⟩

/-- The text from byte `i` up to byte `j`, if both are places between characters. -/
def slice? (text : String) (i j : Nat) : Option String :=
  if IsBoundary text i ∧ IsBoundary text j ∧ i ≤ j then some (slice text i j) else none

theorem slice_eq_empty {text : String} {i j : Nat} (h : j ≤ i) : slice text i j = "" :=
  if_pos h

namespace ByteReader

/-- A byte of the text. -/
def byte? (text : String) (i : Nat) : Option UInt8 := text.toByteArray[i]?

/-- The byte is a digit in itself. -/
def isDigitByte (b : UInt8) : Bool := 48 ≤ b && b ≤ 57

/-- The characters from byte `i` on. -/
def ahead? (text : String) (i : Nat) : Option (List Char) :=
  (slice? text i text.utf8ByteSize).map String.toList

/-- The next character, if there is one. -/
def peek? (text : String) (i : Nat) : Option (Option Char) := (ahead? text i).map List.head?

/-- The character after the next one. -/
def peekSecond? (text : String) (i : Nat) : Option (Option Char) :=
  (ahead? text i).map fun cs => cs.tail.head?

theorem lt_of_peek? {text : String} {i : Nat} {c : Char} (h : peek? text i = some (some c)) :
    i < text.utf8ByteSize := by
  rcases Nat.lt_or_ge i text.utf8ByteSize with hlt | hle
  · exact hlt
  · unfold peek? ahead? slice? at h
    split at h
    · rw [slice_eq_empty hle] at h
      cases h
    · cases h

theorem lt_of_byte? {text : String} {i : Nat} {b : UInt8} (h : byte? text i = some b) :
    i < text.utf8ByteSize := by
  obtain ⟨hlt, -⟩ := getElem?_eq_some_iff.mp h
  exact hlt

/-! ### Moving on -/

/-- The byte after all characters with a property. -/
def passWhile? (p : Char → Bool) (text : String) (i : Nat) : Option Nat :=
  match _h : peek? text i with
  | none => none
  | some none => some i
  | some (some c) => if p c then passWhile? p text (i + c.utf8Size) else some i
termination_by text.utf8ByteSize - i
decreasing_by
  have hlt := lt_of_peek? _h
  have hpos := c.utf8Size_pos
  omega

section

variable {p : Char → Bool} {text : String} {i : Nat} {c : Char}

theorem passWhile?_of_end (h : peek? text i = some none) : passWhile? p text i = some i := by
  rw [passWhile?]
  split <;> simp_all

theorem passWhile?_of_peek? (h : peek? text i = some (some c)) :
    passWhile? p text i = if p c then passWhile? p text (i + c.utf8Size) else some i := by
  rw [passWhile?]
  split <;> simp_all

end

/-- The byte after all bytes that are digits. -/
def passDigits (text : String) (i : Nat) : Nat :=
  match _h : byte? text i with
  | none => i
  | some b => if isDigitByte b then passDigits text (i + 1) else i
termination_by text.utf8ByteSize - i
decreasing_by
  have hlt := lt_of_byte? _h
  omega

theorem passDigits_of_end {text : String} {i : Nat} (h : byte? text i = none) :
    passDigits text i = i := by
  rw [passDigits]
  split <;> simp_all

theorem passDigits_of_byte? {text : String} {i : Nat} {b : UInt8} (h : byte? text i = some b) :
    passDigits text i = if isDigitByte b then passDigits text (i + 1) else i := by
  rw [passDigits]
  split <;> simp_all

/-- The byte after the quote that ends a string, or after the text if none does; `escaped` says
whether a backslash stands right before. -/
def passString? (quote : Char) (text : String) (escaped : Bool) (i : Nat) : Option (Bool × Nat) :=
  match _h : peek? text i with
  | none => none
  | some none => some (false, i)
  | some (some c) =>
    if escaped then passString? quote text false (i + c.utf8Size)
    else if c = '\\' then passString? quote text true (i + c.utf8Size)
    else if c = quote then some (true, i + c.utf8Size)
    else passString? quote text false (i + c.utf8Size)
termination_by text.utf8ByteSize - i
decreasing_by
  all_goals
    have hlt := lt_of_peek? _h
    have hpos := c.utf8Size_pos
    omega

section

variable {quote c : Char} {text : String} {escaped : Bool} {i : Nat}

theorem passString?_of_end (h : peek? text i = some none) :
    passString? quote text escaped i = some (false, i) := by
  rw [passString?]
  split <;> simp_all

theorem passString?_of_peek? (h : peek? text i = some (some c)) :
    passString? quote text escaped i =
      if escaped then passString? quote text false (i + c.utf8Size)
      else if c = '\\' then passString? quote text true (i + c.utf8Size)
      else if c = quote then some (true, i + c.utf8Size)
      else passString? quote text false (i + c.utf8Size) := by
  rw [passString?]
  split <;> simp_all

end

/-! ### Tokens -/

/-- A token or an error, and the byte come to. -/
abbrev Found := Except ParseError Token × Nat

def number? (text : String) (start : Nat) : Option Found :=
  let stop := passDigits text start
  if byte? text stop = some 46 ∧ (byte? text (stop + 1)).any isDigitByte then
    let stop := passDigits text (stop + 1)
    (slice? text start stop).map fun digits => (.ok (.decimal digits), stop)
  else
    (slice? text start stop).map fun literal =>
      match Integer.read? literal.toList with
      | some n => (.ok (.integer n), stop)
      | none => (.error (.invalidNumber literal start), stop)

def string? (text : String) (start : Nat) (quote : Char) : Option Found :=
  match passString? quote text false (start + quote.utf8Size) with
  | none => none
  | some (false, stop) => some (.error (.unterminatedString start), stop)
  | some (true, stop) =>
    (slice? text (start + quote.utf8Size) (stop - quote.utf8Size)).map fun body =>
      (.ok (.string body), stop)

/-- A word that starts at a byte, and the byte after it. -/
def word? (text : String) (start : Nat) : Option (String × Nat) :=
  (passWhile? isNameChar text start).bind fun stop =>
    (slice? text start stop).map fun word => (word, stop)

def marked? (text : String) (start : Nat) (marker : Char) (token : String → Token) :
    Option Found :=
  (peek? text (start + marker.utf8Size)).bind fun next =>
    if next.any isNameStart then
      (word? text (start + marker.utf8Size)).map fun (name, stop) => (.ok (token name), stop)
    else some (.error (.unexpectedCharacter marker start), start + marker.utf8Size)

def symbol? (text : String) (start : Nat) (c : Char) : Option Found :=
  (peekSecond? text start).map fun second =>
    match second.bind (symbolOfTwo? c) with
    | some t => (.ok t, start + 2)
    | none =>
      match symbolOfOne? c with
      | some t => (.ok t, start + 1)
      | none => (.error (.unexpectedCharacter c start), start)

/-- The token that starts with the character `c` at a byte. -/
def token? (text : String) (start : Nat) (c : Char) : Option Found :=
  if c.isDigit then number? text start
  else if c = '\'' ∨ c = '"' then string? text start c
  else if c = '#' then marked? text start c .binding
  else if c = '@' then marked? text start c .component
  else if isNameStart c then
    (word? text start).map fun (word, stop) => (.ok (wordToken word), stop)
  else symbol? text start c

/-- What comes next from a byte on: a token and where it stands, nothing but blanks, or an error; and
the byte come to. -/
def next? (text : String) (i : Nat) : Option (Except ParseError (Option Lexeme) × Nat) :=
  (passWhile? isBlank text i).bind fun start =>
    (peek? text start).bind fun
      | none => some (.ok none, start)
      | some c => (token? text start c).map fun (token, stop) =>
        (token.map fun t => some ⟨t, start, stop⟩, stop)

end ByteReader

end ExprLang
