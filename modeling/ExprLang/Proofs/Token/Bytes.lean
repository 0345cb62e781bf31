import ExprLang.Proofs.Number.Digits
import ExprLang.Proofs.Token.Place
import ExprLang.Proofs.Token.Spelling

/-!
# Reading by bytes comes to the same

Where a cursor is at a place of a text, the reader that goes by bytes answers from the byte of the
cursor what comes next behind the cursor, and comes to the byte that the cursor comes to.  So it always
answers: each slice that it takes starts and ends between characters.  It counts one byte for a digit
and one for each character of a symbol, and these are characters of one byte.

## Main results

* `Cursor.In.passWhile?_eq`, `Cursor.In.passDigits_eq`, `Cursor.In.passString?_closed` — how far the
  reader moves.
* `Cursor.In.next?_eq` — **the reader answers what comes next**.
-/

namespace ExprLang

open ByteReader

/-! ### Bytes of characters -/

/-- A character below 128 is its own byte, and any other one begins with a byte from 192 on. -/
theorem exists_utf8EncodeChar_eq_cons (c : Char) : ∃ b bs, String.utf8EncodeChar c = b :: bs ∧
    ((c.toNat ≤ 127 ∧ b.toNat = c.toNat) ∨ (127 < c.toNat ∧ 192 ≤ b.toNat)) := by
  have hval : c.val.toNat = c.toNat := rfl
  unfold String.utf8EncodeChar
  simp only [hval]
  split
  · refine ⟨_, _, rfl, ?_⟩
    simp only [UInt8.toNat_ofNat']
    omega
  · repeat' split
    all_goals
      refine ⟨_, _, rfl, ?_⟩
      simp only [UInt8.toNat_ofNat']
      omega

theorem isDigitByte_iff {b : UInt8} : isDigitByte b ↔ 48 ≤ b.toNat ∧ b.toNat ≤ 57 := by
  simp only [isDigitByte, Bool.and_eq_true, decide_eq_true_eq, UInt8.le_iff_toNat_le]
  exact Iff.rfl

/-- The first byte of a character tells whether it is a digit, and whether it is a point. -/
theorem exists_first_byte (c : Char) : ∃ b bs, String.utf8EncodeChar c = b :: bs ∧
    isDigitByte b = c.isDigit ∧ (b = 46 ↔ c = '.') := by
  obtain ⟨b, bs, hbytes, hb⟩ := exists_utf8EncodeChar_eq_cons c
  refine ⟨b, bs, hbytes, ?_, ?_⟩
  · rw [Bool.eq_iff_iff, isDigitByte_iff, isDigit_iff]
    omega
  · have hpoint : c = '.' ↔ c.toNat = 46 := by
      rw [Char.ext_iff, UInt32.ext_iff]
      exact Iff.rfl
    have hbyte : b = 46 ↔ b.toNat = 46 := UInt8.toNat_inj.symm
    rw [hpoint, hbyte]
    omega

theorem utf8Size_of_toNat_le {c : Char} (h : c.toNat ≤ 127) : c.utf8Size = 1 := by
  rw [Char.utf8Size_eq_one_iff]
  exact h

theorem utf8Size_of_isDigit {c : Char} (h : c.isDigit) : c.utf8Size = 1 := by
  have hle := (isDigit_iff.mp h).2
  exact utf8Size_of_toNat_le (by omega)

theorem toList_toByteArray (text : String) :
    text.toByteArray.data.toList = text.toList.flatMap String.utf8EncodeChar := by
  rw [← String.utf8Encode_toList]
  simp only [List.utf8Encode, List.data_toByteArray]

theorem length_flatMap_utf8EncodeChar (cs : List Char) :
    (cs.flatMap String.utf8EncodeChar).length = byteLength cs := by
  induction cs with
  | nil => rfl
  | cons c cs ih =>
    rw [List.flatMap_cons, List.length_append, String.length_utf8EncodeChar, ih, byteLength_cons]

/-! ### Looking -/

namespace Cursor

variable {c : Cursor} {text : String}

theorem In.slice?_eq (h : c.In text) {piece rest : List Char} (hrest : c.rest = piece ++ rest) :
    slice? text c.offset (c.offset + byteLength piece) = some (String.ofList piece) := by
  have hstop : IsBoundary text (c.offset + byteLength piece) := (h.behind hrest).isBoundary
  rw [slice?, if_pos ⟨h.isBoundary, hstop, Nat.le_add_right _ _⟩, h.slice_piece hrest]

theorem In.ahead?_eq (h : c.In text) : ahead? text c.offset = some c.rest := by
  have hslice := h.slice?_eq (List.append_nil c.rest).symm
  rw [h.offset_add] at hslice
  rw [ahead?, hslice, Option.map_some, String.toList_ofList]

theorem In.peek?_eq (h : c.In text) : peek? text c.offset = some c.rest.head? := by
  rw [peek?, h.ahead?_eq, Option.map_some]

theorem In.peekSecond?_eq (h : c.In text) : peekSecond? text c.offset = some c.rest.tail.head? := by
  rw [peekSecond?, h.ahead?_eq, Option.map_some]

theorem In.byte?_eq (h : c.In text) :
    byte? text c.offset = (c.rest.flatMap String.utf8EncodeChar).head? := by
  obtain ⟨before, htext, hoffset⟩ := h
  have hbyte : byte? text c.offset = text.toByteArray.data.toList[c.offset]? := by
    rw [Array.getElem?_toList]
    rfl
  rw [hbyte, toList_toByteArray, htext, List.flatMap_append, hoffset,
    ← length_flatMap_utf8EncodeChar, List.getElem?_append_right (Nat.le_refl _), Nat.sub_self,
    List.head?_eq_getElem?]

theorem In.byte?_cons {ch : Char} {rest : List Char} {offset : Nat}
    (h : In ⟨ch :: rest, offset⟩ text) :
    ∃ b, byte? text offset = some b ∧ isDigitByte b = ch.isDigit ∧ (b = 46 ↔ ch = '.') := by
  obtain ⟨b, bs, hbytes, hb⟩ := exists_first_byte ch
  refine ⟨b, ?_, hb⟩
  rw [h.byte?_eq, List.flatMap_cons, hbytes]
  rfl

/-- A point and a digit behind it are told by two bytes. -/
theorem In.point_iff (h : c.In text) :
    (byte? text c.offset = some 46 ∧ (byte? text (c.offset + 1)).any isDigitByte) ↔
      ∃ d rest, c.rest = '.' :: d :: rest ∧ d.isDigit := by
  obtain ⟨rest, offset⟩ := c
  dsimp only
  cases rest with
  | nil =>
    have hbyte : byte? text offset = none := h.byte?_eq
    simp [hbyte]
  | cons ch rest =>
    -- a point is a single byte, so the byte behind it begins the next character
    obtain ⟨b, hb, -, hpoint⟩ := h.byte?_cons
    rw [hb, Option.some_inj, hpoint]
    constructor
    · rintro ⟨rfl, hdigit⟩
      have hbehind : In ⟨rest, offset + 1⟩ text := h.behind_cons rfl
      cases rest with
      | nil =>
        have hbyte : byte? text (offset + 1) = none := hbehind.byte?_eq
        rw [hbyte] at hdigit
        cases hdigit
      | cons d rest =>
        obtain ⟨b', hb', hd, -⟩ := hbehind.byte?_cons
        rw [hb', Option.any_some, hd] at hdigit
        exact ⟨d, rest, rfl, hdigit⟩
    · rintro ⟨d, rest', heq, hdigit⟩
      cases heq
      have hbehind : In ⟨d :: rest', offset + 1⟩ text := h.behind_cons rfl
      obtain ⟨b', hb', hd, -⟩ := hbehind.byte?_cons
      rw [hb', Option.any_some, hd]
      exact ⟨rfl, hdigit⟩

/-! ### Moving on -/

theorem In.passWhile?_eq (h : c.In text) (p : Char → Bool) :
    passWhile? p text c.offset = some (c.offset + byteLength (c.rest.takeWhile p)) := by
  obtain ⟨rest, offset⟩ := c
  induction rest generalizing offset with
  | nil => exact passWhile?_of_end h.peek?_eq
  | cons ch rest ih =>
    rw [passWhile?_of_peek? h.peek?_eq, List.takeWhile_cons]
    split
    · rw [ih _ (h.behind_cons rfl), byteLength_cons, Nat.add_assoc]
    · rfl

/-- A byte of a digit is all of it, so that counting bytes goes from character to character. -/
theorem In.passDigits_eq (h : c.In text) :
    passDigits text c.offset = c.offset + byteLength (c.rest.takeWhile Char.isDigit) := by
  obtain ⟨rest, offset⟩ := c
  induction rest generalizing offset with
  | nil => exact passDigits_of_end h.byte?_eq
  | cons ch rest ih =>
    obtain ⟨b, hbyte, hdigit, -⟩ := h.byte?_cons
    rw [passDigits_of_byte? hbyte, hdigit, List.takeWhile_cons]
    split
    · rename_i hd
      rw [← utf8Size_of_isDigit hd, ih _ (h.behind_cons rfl), byteLength_cons, Nat.add_assoc]
    · rfl

section

variable {quote ch : Char} {rest body : List Char} {offset : Nat}

theorem ne_backslash (hlone : ch = '\\' → rest = [] → False)
    (hpair : ∀ d tail, ch = '\\' → rest = d :: tail → False) : ch ≠ '\\' := by
  intro hch
  cases rest with
  | nil => exact hlone hch rfl
  | cons d tail => exact hpair d tail hch rfl

/-- A backslash is passed together with the character behind it. -/
theorem In.passString?_escaped (h : In ⟨'\\' :: ch :: rest, offset⟩ text) :
    passString? quote text false offset =
      passString? quote text false (offset + byteLength ['\\', ch]) := by
  rw [passString?_of_peek? h.peek?_eq, if_neg Bool.false_ne_true, if_pos rfl,
    passString?_of_peek? (h.behind_cons rfl).peek?_eq, if_pos rfl, Nat.add_assoc]
  rfl

/-- Any other character is passed alone. -/
theorem In.passString?_cons (h : In ⟨ch :: rest, offset⟩ text) (hch : ch ≠ '\\') :
    passString? quote text false offset =
      if ch = quote then some (true, offset + ch.utf8Size)
      else passString? quote text false (offset + ch.utf8Size) := by
  rw [passString?_of_peek? h.peek?_eq, if_neg Bool.false_ne_true, if_neg hch]

/-- A string that is closed is passed with its quote. -/
theorem In.passString?_closed (h : c.In text) (hbody : stringBody? quote c.rest = some body) :
    passString? quote text false c.offset =
      some (true, c.offset + byteLength body + quote.utf8Size) := by
  obtain ⟨rest, offset⟩ := c
  dsimp only at hbody ⊢
  fun_induction stringBody? quote rest generalizing offset body with
  | case1 | case2 => cases hbody
  -- an escape pair: the character behind the backslash cannot close the string
  | case3 ch rest ih =>
    obtain ⟨inner, hinner, rfl⟩ := Option.map_eq_some_iff.mp hbody
    rw [h.passString?_escaped, ih _ (h.behind (show _ = ['\\', ch] ++ rest from rfl)) hinner]
    simp only [byteLength_cons, byteLength_nil, Nat.add_zero, Nat.add_assoc]
  -- the closing quote
  | case4 rest hlone hpair =>
    cases hbody
    rw [h.passString?_cons (ne_backslash hlone hpair), if_pos rfl]
    rfl
  | case5 ch rest hlone hpair hne ih =>
    obtain ⟨inner, hinner, rfl⟩ := Option.map_eq_some_iff.mp hbody
    rw [h.passString?_cons (ne_backslash hlone hpair), if_neg hne, ih _ (h.behind_cons rfl) hinner,
      byteLength_cons, Nat.add_assoc offset]

/-- A string that is not closed is passed up to the end of the text. -/
theorem In.passString?_open (h : c.In text) (hbody : stringBody? quote c.rest = none) :
    passString? quote text false c.offset = some (false, c.offset + byteLength c.rest) := by
  obtain ⟨rest, offset⟩ := c
  dsimp only at hbody ⊢
  fun_induction stringBody? quote rest generalizing offset with
  | case1 => exact passString?_of_end h.peek?_eq
  | case2 =>
    rw [passString?_of_peek? h.peek?_eq]
    exact passString?_of_end (h.behind_cons rfl).peek?_eq
  | case3 ch rest ih =>
    rw [h.passString?_escaped, ih _ (h.behind (show _ = ['\\', ch] ++ rest from rfl))
      (Option.map_eq_none_iff.mp hbody)]
    simp only [byteLength_cons, byteLength_nil, Nat.add_zero, Nat.add_assoc]
  | case4 => cases hbody
  | case5 ch rest hlone hpair hne ih =>
    rw [h.passString?_cons (ne_backslash hlone hpair), if_neg hne,
      ih _ (h.behind_cons rfl) (Option.map_eq_none_iff.mp hbody), byteLength_cons, Nat.add_assoc]

end

/-! ### Tokens -/

/-- What a scanner found behind a cursor, and the byte after what it consumed. -/
def found (c : Cursor) (scanned : Scanned) : Found := (scanned.1, (c.advance scanned.2).offset)

theorem offset_advance {piece tail : List Char} (hrest : c.rest = piece ++ tail) :
    (c.advance piece.length).offset = c.offset + byteLength piece := by
  rw [advance, hrest, List.take_left]

theorem found_eq {piece tail : List Char} (hrest : c.rest = piece ++ tail)
    (r : Except ParseError Token) :
    c.found (r, piece.length) = (r, c.offset + byteLength piece) := by
  rw [found, offset_advance hrest]

theorem In.number?_eq (h : c.In text) :
    number? text c.offset = some (c.found (scanNumber c.offset c.rest)) := by
  have hcut : c.rest = c.rest.takeWhile Char.isDigit ++ c.rest.dropWhile Char.isDigit :=
    List.takeWhile_append_dropWhile.symm
  have hwhole := h.behind hcut
  unfold number?
  dsimp only
  rw [h.passDigits_eq]
  by_cases hpoint : ∃ d rest, c.rest.dropWhile Char.isDigit = '.' :: d :: rest ∧ d.isDigit
  · rw [if_pos (hwhole.point_iff.mpr hpoint)]
    obtain ⟨d, rest, hrest, hd⟩ := hpoint
    have hplaces : (d :: rest).takeWhile Char.isDigit = d :: rest.takeWhile Char.isDigit := by
      rw [List.takeWhile_cons, if_pos hd]
    have hnumber := eq_append_of_point hrest
    -- counting starts again behind the point, at the digit that is known to be there
    have hpassed : passDigits text (c.offset + byteLength (c.rest.takeWhile Char.isDigit) + 1) =
        c.offset +
          byteLength (c.rest.takeWhile Char.isDigit ++ '.' :: d :: rest.takeWhile Char.isDigit) := by
      rw [hrest] at hwhole
      have hbehind : In ⟨d :: rest, _ + 1⟩ text := hwhole.behind_cons rfl
      rw [hbehind.passDigits_eq, hplaces, byteLength_append, byteLength_cons]
      simp only [Nat.add_assoc]
      rfl
    rw [hpassed, h.slice?_eq hnumber, scanNumber_of_point hrest hd, found_eq hnumber]
    rfl
  · -- without a point the digits are all there is
    rw [if_neg fun hbytes => hpoint (hwhole.point_iff.mp hbytes), h.slice?_eq hcut,
      scanNumber_of_digits hpoint, found_eq hcut, Option.map_some, String.toList_ofList]
    cases Integer.read? (c.rest.takeWhile Char.isDigit) <;> rfl

theorem In.string?_eq (h : c.In text) {quote : Char} {rest : List Char}
    (hrest : c.rest = quote :: rest) :
    string? text c.offset quote = some (c.found (scanString c.offset quote rest)) := by
  have hbehind := h.behind_cons hrest
  unfold string? scanString
  -- the body found on the characters tells where the byte scan stops, and whether it is closed
  cases hbody : stringBody? quote rest with
  | none =>
    have hall : c.rest = (quote :: rest) ++ [] := by rw [hrest, List.append_nil]
    rw [hbehind.passString?_open hbody]
    dsimp only
    rw [← List.length_cons, found_eq hall, byteLength_cons, Nat.add_assoc]
  | some body =>
    obtain ⟨tail, rfl⟩ := exists_eq_append_of_stringBody? hbody
    have hwhole : c.rest = (quote :: (body ++ [quote])) ++ tail := by
      rw [hrest]
      simp only [List.cons_append, List.append_assoc, List.nil_append]
    have hlength : body.length + 2 = (quote :: (body ++ [quote])).length := by
      simp only [List.length_cons, List.length_append, List.length_nil]
    rw [hbehind.passString?_closed hbody]
    dsimp only
    rw [Nat.add_sub_cancel, hbehind.slice?_eq rfl, hlength, found_eq hwhole, Option.map_some]
    simp only [byteLength_cons, byteLength_append, byteLength_nil, Nat.add_zero, Nat.add_assoc]

/-- A name is passed as a whole, for its first character can stand inside a name too. -/
theorem In.word?_eq (h : c.In text) {ch : Char} {rest : List Char} (hrest : c.rest = ch :: rest)
    (hch : isNameStart ch) :
    word? text c.offset =
      some (String.ofList (nameAt c.rest), c.offset + byteLength (nameAt c.rest)) := by
  have hname : c.rest.takeWhile isNameChar = nameAt c.rest := by
    rw [hrest, nameAt, if_pos hch, List.takeWhile_cons, if_pos (isNameChar_of_isNameStart hch)]
  obtain ⟨tail, htail⟩ := nameAt_isPrefix c.rest
  rw [word?, h.passWhile?_eq, hname, Option.bind_some, h.slice?_eq htail.symm, Option.map_some]

theorem In.marked?_eq (h : c.In text) {marker : Char} {rest : List Char} (token : String → Token)
    (hrest : c.rest = marker :: rest) :
    marked? text c.offset marker token =
      some (c.found (scanMarked c.offset marker token rest)) := by
  have hbehind := h.behind_cons hrest
  unfold marked? scanMarked
  rw [hbehind.peek?_eq, Option.bind_some]
  by_cases hstart : rest.head?.any isNameStart
  · obtain ⟨d, hd, hname⟩ := (Option.any_eq_true isNameStart _).mp hstart
    obtain ⟨tail, rfl⟩ := List.head?_eq_some_iff.mp hd
    have hnameAt : nameAt (d :: tail) = d :: tail.takeWhile isNameChar := by
      rw [nameAt, if_pos hname]
    have hcut : c.rest = (marker :: d :: tail.takeWhile isNameChar) ++ tail.dropWhile isNameChar := by
      rw [hrest, List.cons_append, List.cons_append, List.takeWhile_append_dropWhile]
    rw [if_pos hstart, hbehind.word?_eq rfl hname, hnameAt]
    refine congrArg some (Eq.trans ?_ (found_eq hcut _).symm)
    rw [byteLength_cons marker, ← Nat.add_assoc]
  · have hnone : nameAt rest = [] := by
      cases rest with
      | nil => rfl
      | cons d tail => exact if_neg hstart
    rw [if_neg hstart, hnone]
    exact congrArg some (found_eq (show c.rest = [marker] ++ rest from hrest) _).symm

theorem utf8Size_of_symbolOfTwo? {ch d : Char} {t : Token} (h : symbolOfTwo? ch d = some t) :
    ch.utf8Size = 1 ∧ d.utf8Size = 1 := by
  unfold symbolOfTwo? at h
  split at h <;> first | exact ⟨rfl, rfl⟩ | cases h

theorem utf8Size_of_symbolOfOne? {ch : Char} {t : Token} (h : symbolOfOne? ch = some t) :
    ch.utf8Size = 1 := by
  unfold symbolOfOne? at h
  split at h <;> first | rfl | cases h

/-- Symbols are characters of one byte each. -/
theorem In.symbol?_eq (h : c.In text) {ch : Char} {rest : List Char} (hrest : c.rest = ch :: rest) :
    symbol? text c.offset ch = some (c.found (scanSymbol c.offset ch rest)) := by
  unfold symbol? scanSymbol
  rw [h.peekSecond?_eq, hrest, Option.map_some, List.tail_cons]
  -- the symbols are ASCII, so two characters are two bytes
  cases htwo : rest.head?.bind (symbolOfTwo? ch) with
  | some t =>
    obtain ⟨d, hd, hsymbol⟩ := Option.bind_eq_some_iff.mp htwo
    obtain ⟨tail, rfl⟩ := List.head?_eq_some_iff.mp hd
    obtain ⟨hch, hd⟩ := utf8Size_of_symbolOfTwo? hsymbol
    have hbytes : byteLength [ch, d] = 2 := by
      rw [byteLength_cons, byteLength_cons, hch, hd, byteLength_nil]
    have hfound := found_eq (show c.rest = [ch, d] ++ tail from hrest) (.ok t)
    rw [hbytes] at hfound
    exact congrArg some hfound.symm
  | none =>
    cases hone : symbolOfOne? ch with
    | some t =>
      have hbytes : byteLength [ch] = 1 := by
        rw [byteLength_cons, utf8Size_of_symbolOfOne? hone, byteLength_nil]
      have hfound := found_eq (show c.rest = [ch] ++ rest from hrest) (.ok t)
      rw [hbytes] at hfound
      exact congrArg some hfound.symm
    | none => exact congrArg some (found_eq (show c.rest = [] ++ c.rest from rfl) _).symm

theorem In.token?_eq (h : c.In text) {ch : Char} {rest : List Char} (hrest : c.rest = ch :: rest) :
    token? text c.offset ch = some (c.found (scanToken c.offset ch rest)) := by
  unfold token? scanToken
  split
  · rw [← hrest, h.number?_eq]
  split
  · exact h.string?_eq hrest
  split
  · exact h.marked?_eq _ hrest
  split
  · exact h.marked?_eq _ hrest
  split
  · rename_i hch
    obtain ⟨tail, htail⟩ := nameAt_isPrefix c.rest
    rw [h.word?_eq hrest hch, ← hrest, found_eq htail.symm]
    rfl
  · exact h.symbol?_eq hrest

end Cursor

/-- What reading on gives, and the byte come to. -/
def Step.outcome : Step → Except ParseError (Option Lexeme) × Nat
  | .finished after => (.ok none, after.offset)
  | .lexeme l after => (.ok (some l), after.offset)
  | .failed e after => (.error e, after.offset)

/-- **The reader answers what comes next**, and comes to the byte that the cursor comes to. -/
theorem Cursor.In.next?_eq {c : Cursor} {text : String} (h : c.In text) :
    next? text c.offset = some c.next.outcome := by
  have hpass : passWhile? isBlank text c.offset = some c.skipBlanks.offset := h.passWhile?_eq isBlank
  have hskip := h.skipBlanks
  unfold next?
  rw [hpass, Option.bind_some, hskip.peek?_eq, Option.bind_some]
  -- behind the blanks both scans start at the same byte
  cases hrest : c.skipBlanks.rest with
  | nil =>
    rw [Cursor.next_of_end hrest]
    rfl
  | cons ch rest =>
    change (token? text c.skipBlanks.offset ch).map _ = _
    rw [hskip.token?_eq hrest, Option.map_some]
    rcases hscan : scanToken c.skipBlanks.offset ch rest with ⟨e | t, n⟩
    · rw [Cursor.next_of_error hrest hscan]
      rfl
    · rw [Cursor.next_of_token hrest hscan]
      rfl

end ExprLang
