import Mathlib.Data.List.TakeWhile
import ExprLang.Proofs.Literal.Written
import ExprLang.Proofs.Number.Digits
import ExprLang.Proofs.Token.Spelling

/-!
# What stands behind a token

A scanner sees a token and what is next to it: the character behind the token, and for a number two of
them, since a point goes with a number only before a digit.  A blank behind a token ends it, whatever
comes after, and so does the end of the text.  So a token is read off the same characters wherever they
stand, as long as what is behind them looks the same or is a blank.

## Main definitions

* `Clear`, `LooksLike` — what a scanner can see behind a token.
* `EndsBefore c tail tail'` — what ends a token before `tail` ends it before `tail'` too.
* `hasBare`, `dangles` — the quotes and the backslashes that cannot be in a string.
* `Token.Leads t piece tail` — the token is read off the front of the characters.

## Main results

* `Numeral.scanNumber`, `scanString_append`, `nameAt_of_endsBefore` — what numbers, strings and names are
  read off, wherever they stand.
* `Token.Leads.of_looksLike` — **a token is read off the same piece if what is behind it looks the same**.
-/

namespace ExprLang

/-! ### Blanks -/

/-- The code points of the blanks. -/
def blankCodes : List ℕ :=
  [0x9, 0xA, 0xB, 0xC, 0xD, 0x20, 0x85, 0xA0, 0x1680, 0x2000, 0x2001, 0x2002, 0x2003, 0x2004, 0x2005,
    0x2006, 0x2007, 0x2008, 0x2009, 0x200A, 0x2028, 0x2029, 0x202F, 0x205F, 0x3000]

theorem toNat_mem_blankCodes {c : Char} (h : isBlank c) : c.toNat ∈ blankCodes := by
  simp only [isBlank, Bool.or_eq_true, Bool.and_eq_true, decide_eq_true_eq, beq_iff_eq] at h
  simp only [blankCodes, List.mem_cons, List.not_mem_nil, or_false]
  omega

theorem not_isNameChar_of_isBlank {c : Char} (h : isBlank c) : isNameChar c = false := by
  have hcodes : ∀ n ∈ blankCodes, isNameChar (Char.ofNat n) = false := by decide +kernel
  have hc := hcodes c.toNat (toNat_mem_blankCodes h)
  rwa [Char.ofNat_toNat] at hc

theorem not_isDigit_of_isBlank {c : Char} (h : isBlank c) : c.isDigit = false := by
  cases hc : c.isDigit with
  | false => rfl
  | true =>
    rw [not_isBlank_of_isDigit hc] at h
    cases h

/-- Digits are characters of names. -/
theorem not_isDigit_of_not_isNameChar {c : Char} (h : isNameChar c = false) : c.isDigit = false := by
  refine eq_false_of_ne_true fun hdigit => ?_
  have hlow : c.toNat < 0x80 := by
    have hrange := isDigit_iff.mp hdigit
    omega
  rw [isNameChar, if_pos hlow, hdigit, Bool.or_true, Bool.true_or] at h
  cases h

section

variable {start start' n : ℕ} {c d : Char} {cs rest piece tail tail' : List Char} {t : Token}

/-- No symbol of two characters has a blank. -/
theorem symbolOfTwo?_of_isBlank (h : isBlank c ∨ isBlank d) : symbolOfTwo? c d = none := by
  unfold symbolOfTwo?
  split
  case h_9 => rfl
  all_goals exact absurd h (by decide)

theorem symbolOfOne?_of_isBlank (h : isBlank c) : symbolOfOne? c = none := by
  unfold symbolOfOne?
  split
  case h_19 => rfl
  all_goals exact absurd h (by decide)

theorem ne_of_isBlank (h : isBlank c) (hd : isBlank d = false) : c ≠ d := by
  rintro rfl
  rw [h] at hd
  cases hd

/-- No token begins with a blank. -/
theorem scanToken_of_isBlank (h : isBlank c) :
    scanToken start c rest = (.error (.unexpectedCharacter c start), 0) := by
  have hstart : ¬ isNameStart c := by
    intro hc
    have hname := isNameChar_of_isNameStart hc
    rw [not_isNameChar_of_isBlank h] at hname
    cases hname
  have htwo : rest.head?.bind (symbolOfTwo? c) = none :=
    Option.bind_eq_none_iff.mpr fun d _ => symbolOfTwo?_of_isBlank (.inl h)
  rw [scanToken, if_neg (by simp [not_isDigit_of_isBlank h]),
    if_neg (by simp [ne_of_isBlank h (d := '\'') rfl, ne_of_isBlank h (d := '"') rfl]),
    if_neg (ne_of_isBlank h rfl), if_neg (ne_of_isBlank h rfl), if_neg hstart, scanSymbol, htwo,
    symbolOfOne?_of_isBlank h]

/-! ### What is behind a token -/

/-- Nothing follows, or a blank does. -/
def Clear (tail : List Char) : Prop := ∀ c ∈ tail.head?, isBlank c

/-- Behind a token, `tail'` looks to a scanner as `tail` does.  It is clear, or begins with the same
character; and if that is a point, then behind it the same holds again. -/
def LooksLike (tail tail' : List Char) : Prop :=
  Clear tail' ∨ ∃ c rest rest', tail = c :: rest ∧ tail' = c :: rest' ∧
    (c = '.' → Clear rest' ∨ rest'.head? = rest.head?)

theorem clear_nil : Clear [] := by simp [Clear]

theorem clear_cons (h : isBlank c) : Clear (c :: cs) := by simpa [Clear] using h

/-- Characters look alike up to where they end. -/
theorem looksLike_of_append (tail more : List Char) : LooksLike (tail ++ more) tail := by
  rcases tail with _ | ⟨c, _ | ⟨d, rest⟩⟩
  · exact .inl clear_nil
  · exact .inr ⟨c, more, [], rfl, rfl, fun _ => .inl clear_nil⟩
  · exact .inr ⟨c, d :: rest ++ more, d :: rest, rfl, rfl, fun _ => .inr rfl⟩

theorem looksLike_refl (tail : List Char) : LooksLike tail tail := by
  have hlike := looksLike_of_append tail []
  rwa [List.append_nil] at hlike

/-- What ends a token before `tail` ends it before `tail'` too: no digit, no point with a digit behind it,
no character of a name, and none that makes a symbol with the first character `c` of the token. -/
structure EndsBefore (c : Char) (tail tail' : List Char) : Prop where
  digit : (∀ d ∈ tail.head?, d.isDigit = false) → ∀ d ∈ tail'.head?, d.isDigit = false
  point : (¬ ∃ d rest, tail = '.' :: d :: rest ∧ d.isDigit) →
    ¬ ∃ d rest, tail' = '.' :: d :: rest ∧ d.isDigit
  name : (∀ d ∈ tail.head?, isNameChar d = false) → ∀ d ∈ tail'.head?, isNameChar d = false
  symbol : (∀ d ∈ tail.head?, (symbolOfTwo? c d).isSome = false) →
    ∀ d ∈ tail'.head?, (symbolOfTwo? c d).isSome = false

namespace LooksLike

variable (h : LooksLike tail tail')
include h

/-- What is known of the next character, if it also holds of blanks. -/
theorem head {p : Char → Bool} (hblank : ∀ c, isBlank c → p c = false)
    (htail : ∀ c ∈ tail.head?, p c = false) : ∀ c ∈ tail'.head?, p c = false := by
  rcases h with hclear | ⟨c, rest, rest', rfl, rfl, -⟩
  · exact fun c hc => hblank c (hclear c hc)
  · exact htail

/-- No digit behind a point comes into view. -/
theorem no_point (htail : ¬ ∃ d rest, tail = '.' :: d :: rest ∧ d.isDigit) :
    ¬ ∃ d rest, tail' = '.' :: d :: rest ∧ d.isDigit := by
  rintro ⟨d, rest, rfl, hd⟩
  rcases h with hclear | ⟨c, rest₁, rest', rfl, heq, hpoint⟩
  · exact absurd (hclear '.' rfl) (by decide)
  · cases heq
    rcases hpoint rfl with hclear | hhead
    · rw [not_isDigit_of_isBlank (hclear d rfl)] at hd
      cases hd
    · obtain ⟨rest₂, rfl⟩ := List.head?_eq_some_iff.mp hhead.symm
      exact htail ⟨d, rest₂, rfl, hd⟩

/-- What looks like something that ends a token ends it. -/
theorem endsBefore (c : Char) : EndsBefore c tail tail' where
  digit := h.head fun _ => not_isDigit_of_isBlank
  point := h.no_point
  name := h.head fun _ => not_isNameChar_of_isBlank
  symbol := by
    refine h.head fun d hd => ?_
    rw [symbolOfTwo?_of_isBlank (.inr hd), Option.isSome_none]

end LooksLike

/-! ### Numbers -/

/-- A list up to where a property ends. -/
theorem takeWhile_append_eq_iff {p : Char → Bool} :
    (cs ++ tail).takeWhile p = cs ↔ (∀ c ∈ cs, p c) ∧ ∀ c ∈ tail.head?, p c = false := by
  constructor
  · intro h
    have hcs : ∀ c ∈ cs, p c := fun c hc => List.mem_takeWhile_imp (h.symm ▸ hc)
    rw [List.takeWhile_append_of_pos hcs, List.append_right_eq_self] at h
    refine ⟨hcs, ?_⟩
    cases tail with
    | nil => simp
    | cons c rest => simpa [List.takeWhile_cons] using h
  · rintro ⟨hcs, htail⟩
    rw [List.takeWhile_append_of_pos hcs]
    cases tail with
    | nil => simp
    | cons c rest => simp [htail c rfl]

theorem dropWhile_append_eq {p : Char → Bool} (hcs : ∀ c ∈ cs, p c)
    (htail : ∀ c ∈ tail.head?, p c = false) : (cs ++ tail).dropWhile p = tail := by
  rw [List.dropWhile_append_of_pos hcs]
  cases tail with
  | nil => rfl
  | cons c rest => simp [htail c rfl]

/-- The numbers that are read off the front of some characters: with a point if digits are on both of its
sides, and otherwise as an integer. -/
inductive Numeral (tail : List Char) : Token → List Char → Prop
  | decimal {whole places : List Char} {d : Char} (hwhole : ∀ c ∈ whole, c.isDigit)
    (hplaces : ∀ c ∈ d :: places, c.isDigit) (htail : ∀ c ∈ tail.head?, c.isDigit = false) :
    Numeral tail (.decimal (String.ofList (whole ++ '.' :: d :: places))) (whole ++ '.' :: d :: places)
  | integer {whole : List Char} {n : Int64} (hwhole : ∀ c ∈ whole, c.isDigit)
    (hread : Integer.read? whole = some n) (htail : ∀ c ∈ tail.head?, c.isDigit = false)
    (hpoint : ¬ ∃ d rest, tail = '.' :: d :: rest ∧ d.isDigit) :
    Numeral tail (.integer n) whole

theorem Numeral.of_endsBefore (h : Numeral tail t piece) (hends : EndsBefore c tail tail') :
    Numeral tail' t piece := by
  cases h with
  | decimal hwhole hplaces htail => exact .decimal hwhole hplaces (hends.digit htail)
  | integer hwhole hread htail hpoint =>
    exact .integer hwhole hread (hends.digit htail) (hends.point hpoint)

/-- No digit is left behind a number. -/
theorem Numeral.not_isDigit (h : Numeral tail t piece) : ∀ c ∈ tail.head?, c.isDigit = false := by
  cases h with
  | decimal _ _ htail | integer _ _ htail => exact htail

theorem head?_dropWhile {p : Char → Bool} : ∀ c ∈ (cs.dropWhile p).head?, p c = false := by
  intro c hc
  have hhead := List.head?_dropWhile_not p cs
  rwa [Option.mem_def.mp hc] at hhead

/-- What is read off as a number is one of these. -/
theorem numeral_of_scanNumber (h : scanNumber start (piece ++ tail) = (.ok t, piece.length)) :
    Numeral tail t piece := by
  have hdigits : ∀ c ∈ (piece ++ tail).takeWhile Char.isDigit, c.isDigit :=
    fun c => List.mem_takeWhile_imp
  by_cases hpoint : ∃ d rest, (piece ++ tail).dropWhile Char.isDigit = '.' :: d :: rest ∧ d.isDigit
  · obtain ⟨d, rest, hrest, hd⟩ := hpoint
    have hcut := eq_append_of_point hrest
    rw [scanNumber_of_point hrest hd, Prod.mk.injEq, Except.ok.injEq] at h
    obtain ⟨rfl, hlength⟩ := h
    obtain ⟨hpiece, rfl⟩ := List.append_inj hcut hlength.symm
    -- the digits before the point are told by the piece, which they are a part of
    generalize (piece ++ _).takeWhile Char.isDigit = whole at hdigits hpiece
    subst hpiece
    refine .decimal hdigits (fun c hc => ?_) head?_dropWhile
    rcases List.mem_cons.mp hc with rfl | hc
    · exact hd
    · exact List.mem_takeWhile_imp hc
  · have hcut := (List.takeWhile_append_dropWhile (p := Char.isDigit) (l := piece ++ tail)).symm
    rw [scanNumber_of_digits hpoint] at h
    cases hread : Integer.read? ((piece ++ tail).takeWhile Char.isDigit) with
    | none =>
      rw [hread] at h
      cases h
    | some n =>
      rw [hread] at h
      obtain ⟨ht, hlength⟩ := Prod.mk.inj h
      cases ht
      obtain ⟨hpiece, htail⟩ := List.append_inj hcut hlength.symm
      rw [← htail] at hpoint
      rw [← hpiece] at hread hdigits
      exact .integer hdigits hread (htail ▸ head?_dropWhile) hpoint

/-- These numbers are read off, wherever they stand. -/
theorem Numeral.scanNumber (h : Numeral tail t piece) (start : ℕ) :
    scanNumber start (piece ++ tail) = (.ok t, piece.length) := by
  cases h with
  | @decimal whole places d hwhole hplaces htail =>
    have hstop : ∀ c ∈ ('.' :: d :: (places ++ tail)).head?, c.isDigit = false := by simp
    have hcs : whole ++ '.' :: d :: places ++ tail = whole ++ '.' :: d :: (places ++ tail) := by simp
    have htake := takeWhile_append_eq_iff.mpr ⟨hwhole, hstop⟩
    have hplaces' := takeWhile_append_eq_iff.mpr
      ⟨fun c hc => hplaces c (List.mem_cons_of_mem d hc), htail⟩
    rw [hcs, scanNumber_of_point (dropWhile_append_eq hwhole hstop) (hplaces d List.mem_cons_self),
      htake, hplaces']
  | integer hwhole hread htail hpoint =>
    rw [scanNumber_of_digits (by rwa [dropWhile_append_eq hwhole htail]),
      takeWhile_append_eq_iff.mpr ⟨hwhole, htail⟩, hread]
    rfl

/-! ### Strings -/

/-- A quote stands among the characters without a backslash that takes it along; a backslash takes the
next character with it, whatever that is. -/
def hasBare (quote : Char) : List Char → Bool
  | [] => false
  | ['\\'] => false
  | '\\' :: _ :: rest => hasBare quote rest
  | c :: rest => c == quote || hasBare quote rest

/-- The characters end with a backslash that has nothing to take with it. -/
def dangles : List Char → Bool
  | [] => false
  | ['\\'] => true
  | '\\' :: _ :: rest => dangles rest
  | _ :: rest => dangles rest

section

variable {quote : Char} {body : List Char}

theorem hasBare_plain (hbackslash : c ≠ '\\') :
    hasBare quote (c :: rest) = (c == quote || hasBare quote rest) := by
  rw [hasBare] <;> intros <;> contradiction

theorem dangles_plain (hbackslash : c ≠ '\\') : dangles (c :: rest) = dangles rest := by
  rw [dangles] <;> intros <;> contradiction

/-- A character that is neither of the first two kinds is no backslash. -/
theorem ne_backslash (hone : c = '\\' → rest = [] → False)
    (hescape : ∀ d ds, c = '\\' → rest = d :: ds → False) : c ≠ '\\' := by
  intro hc
  cases rest with
  | nil => exact hone hc rfl
  | cons d ds => exact hescape d ds hc rfl

/-- What a string can have between its quotes. -/
theorem not_hasBare_of_stringBody? (h : stringBody? quote cs = some body) :
    hasBare quote body = false ∧ dangles body = false := by
  fun_induction stringBody? quote cs generalizing body with
  | case1 | case2 => cases h
  | case3 c rest ih =>
    obtain ⟨inner, hinner, rfl⟩ := Option.map_eq_some_iff.mp h
    obtain ⟨hbare, hdangles⟩ := ih hinner
    exact ⟨hbare, hdangles⟩
  -- the body ends before the first quote that no backslash escapes
  | case4 rest =>
    cases h
    exact ⟨rfl, rfl⟩
  | case5 c rest hone hescape hne ih =>
    obtain ⟨inner, hinner, rfl⟩ := Option.map_eq_some_iff.mp h
    obtain ⟨hbare, hdangles⟩ := ih hinner
    have hc := ne_backslash hone hescape
    refine ⟨?_, (dangles_plain hc).trans hdangles⟩
    rw [hasBare_plain hc, hbare, Bool.or_false]
    exact beq_eq_false_iff_ne.mpr hne

/-- The quote behind such characters is the first one that ends the string. -/
theorem stringBody?_append (hquote : quote ≠ '\\') (hbare : hasBare quote body = false)
    (hdangles : dangles body = false) (tail : List Char) :
    stringBody? quote (body ++ quote :: tail) = some body := by
  fun_induction hasBare quote body with
  | case1 => exact stringBody?_quote hquote tail
  | case2 => cases hdangles
  | case3 c rest ih =>
    rw [List.cons_append, List.cons_append, stringBody?_escaped, ih hbare hdangles]
    rfl
  | case4 c rest hone hescape ih =>
    have hc := ne_backslash hone hescape
    rw [Bool.or_eq_false_iff, beq_eq_false_iff_ne] at hbare
    rw [dangles_plain hc] at hdangles
    rw [List.cons_append, stringBody?_plain hc hbare.1, ih hbare.2 hdangles]
    rfl

/-- A string goes up to its quote, whatever is behind that. -/
theorem scanString_append (hquote : quote = '\'' ∨ quote = '"') (hbare : hasBare quote body = false)
    (hdangles : dangles body = false) (tail : List Char) :
    scanString start quote (body ++ [quote] ++ tail) =
      (.ok (.string (String.ofList body)), (body ++ [quote]).length + 1) := by
  have hbackslash : quote ≠ '\\' := by rcases hquote with rfl | rfl <;> decide
  have hbody := stringBody?_append hbackslash hbare hdangles tail
  have hlength : (body ++ [quote]).length = body.length + 1 := by simp
  rw [List.append_assoc, List.singleton_append, scanString, hbody, hlength]

/-- What is read off as a string. -/
theorem exists_of_scanString (h : scanString start quote (cs ++ tail) = (.ok t, cs.length + 1)) :
    ∃ body, cs = body ++ [quote] ∧ t = .string (String.ofList body) ∧ hasBare quote body = false ∧
      dangles body = false := by
  unfold scanString at h
  split at h
  · rename_i body hbody
    obtain ⟨ht, hlength⟩ := Prod.mk.inj h
    obtain ⟨hbare, hdangles⟩ := not_hasBare_of_stringBody? hbody
    obtain ⟨rest, hrest⟩ := exists_eq_append_of_stringBody? hbody
    rw [List.append_cons] at hrest
    have hcs := (List.append_inj hrest (by simpa using (Nat.succ.inj hlength).symm)).1
    exact ⟨body, hcs, (Except.ok.inj ht).symm, hbare, hdangles⟩
  · cases h

end

/-! ### Names -/

/-- A name that is as long as the front of the characters is this front. -/
theorem nameAt_eq_of_length (h : (nameAt (cs ++ tail)).length = cs.length) :
    nameAt (cs ++ tail) = cs := by
  obtain ⟨rest, hrest⟩ := nameAt_isPrefix (cs ++ tail)
  exact (List.append_inj hrest h).1

/-- No character behind a name could be one of it. -/
theorem not_isNameChar_of_nameAt (hne : cs ≠ []) (h : nameAt (cs ++ tail) = cs) :
    ∀ c ∈ tail.head?, isNameChar c = false := by
  obtain ⟨d, name, rfl⟩ := List.exists_cons_of_ne_nil hne
  rw [List.cons_append, nameAt] at h
  split at h
  · exact (takeWhile_append_eq_iff.mp (List.cons.inj h).2).2
  · cases h

/-- A name ends before what is no part of it. -/
theorem nameAt_of_endsBefore (hne : cs ≠ []) (h : nameAt (cs ++ tail) = cs)
    (hends : EndsBefore c tail tail') : nameAt (cs ++ tail') = cs := by
  have htail' := hends.name (not_isNameChar_of_nameAt hne h)
  obtain ⟨d, name, rfl⟩ := List.exists_cons_of_ne_nil hne
  rw [List.cons_append, nameAt] at h ⊢
  split at h
  · rename_i hd
    obtain ⟨hname, -⟩ := takeWhile_append_eq_iff.mp (List.cons.inj h).2
    rw [if_pos hd, takeWhile_append_eq_iff.mpr ⟨hname, htail'⟩]
  · cases h

theorem scanMarked_of_nameAt {token : String → Token} (hne : cs ≠ []) (h : nameAt (cs ++ tail) = cs) :
    scanMarked start c token (cs ++ tail) = (.ok (token (String.ofList cs)), cs.length + 1) := by
  obtain ⟨d, name, rfl⟩ := List.exists_cons_of_ne_nil hne
  rw [scanMarked, h]
  rfl

/-- What is read behind a marker is a name. -/
theorem nameAt_of_scanMarked {token : String → Token}
    (h : scanMarked start c token (cs ++ tail) = (.ok t, cs.length + 1)) :
    cs ≠ [] ∧ nameAt (cs ++ tail) = cs ∧ t = token (String.ofList cs) := by
  unfold scanMarked at h
  split at h
  · cases h
  · rename_i d name hname
    obtain ⟨ht, hlength⟩ := Prod.mk.inj h
    have hcs : nameAt (cs ++ tail) = cs := by
      apply nameAt_eq_of_length
      rw [hname]
      exact Nat.succ.inj hlength
    rw [hname] at hcs
    refine ⟨?_, hname.trans hcs, ?_⟩
    · rw [← hcs]
      exact List.cons_ne_nil d name
    · rw [← hcs]
      exact (Except.ok.inj ht).symm

theorem scanMarked_of_endsBefore {token : String → Token}
    (h : scanMarked start c token (cs ++ tail) = (.ok t, cs.length + 1))
    (hends : EndsBefore c tail tail') :
    scanMarked start' c token (cs ++ tail') = (.ok t, cs.length + 1) := by
  obtain ⟨hne, hname, rfl⟩ := nameAt_of_scanMarked h
  exact scanMarked_of_nameAt hne (nameAt_of_endsBefore hne hname hends)

/-! ### Symbols -/

theorem scanSymbol_two (h : symbolOfTwo? c d = some t) :
    scanSymbol start c (d :: rest) = (.ok t, 2) := by
  rw [scanSymbol, List.head?_cons, Option.bind_some, h]

theorem scanSymbol_one (htwo : ∀ d ∈ rest.head?, (symbolOfTwo? c d).isSome = false)
    (h : symbolOfOne? c = some t) : scanSymbol start c rest = (.ok t, 1) := by
  have hnone : rest.head?.bind (symbolOfTwo? c) = none := by
    rw [Option.bind_eq_none_iff]
    intro d hd
    exact Option.isNone_iff_eq_none.mp (Option.isSome_eq_false_iff.mp (htwo d hd))
  rw [scanSymbol, hnone, h]

theorem scanSymbol_of_endsBefore (h : scanSymbol start c (cs ++ tail) = (.ok t, cs.length + 1))
    (hends : EndsBefore c tail tail') : scanSymbol start' c (cs ++ tail') = (.ok t, cs.length + 1) := by
  unfold scanSymbol at h
  split at h
  · -- two characters: both are in the piece, so the tail does not matter
    rename_i s hs
    obtain ⟨ht, hlength⟩ := Prod.mk.inj h
    cases ht
    obtain ⟨d, rfl⟩ := List.length_eq_one_iff.mp (Nat.succ.inj hlength).symm
    exact scanSymbol_two hs
  -- one character: no second one in the old tail, and so none in the new
  · rename_i hnone
    split at h
    · rename_i s hs
      obtain ⟨ht, hlength⟩ := Prod.mk.inj h
      cases ht
      obtain rfl := List.length_eq_zero_iff.mp (Nat.succ.inj hlength).symm
      have htail : ∀ d ∈ tail.head?, (symbolOfTwo? c d).isSome = false := by
        intro d hd
        rw [Option.bind_eq_none_iff.mp hnone d hd, Option.isSome_none]
      exact scanSymbol_one (hends.symbol htail) hs
    · cases h

/-! ### Tokens -/

/-- Every scanner finds the same token if what is behind it ends the token too. -/
theorem scanToken_of_endsBefore (h : scanToken start c (cs ++ tail) = (.ok t, cs.length + 1))
    (hends : EndsBefore c tail tail') : scanToken start' c (cs ++ tail') = (.ok t, cs.length + 1) := by
  unfold scanToken at h ⊢
  by_cases hdigit : c.isDigit
  · rw [if_pos hdigit] at h ⊢
    have hnumeral : Numeral tail t (c :: cs) := numeral_of_scanNumber h
    exact (hnumeral.of_endsBefore hends).scanNumber start'
  rw [if_neg hdigit] at h ⊢
  by_cases hquote : c = '\'' ∨ c = '"'
  · -- nothing behind the quote is looked at
    rw [if_pos hquote] at h ⊢
    obtain ⟨body, rfl, rfl, hbare, hdangles⟩ := exists_of_scanString h
    exact scanString_append hquote hbare hdangles tail'
  rw [if_neg hquote] at h ⊢
  by_cases hbinding : c = '#'
  · rw [if_pos hbinding] at h ⊢
    exact scanMarked_of_endsBefore h hends
  rw [if_neg hbinding] at h ⊢
  by_cases hcomponent : c = '@'
  · rw [if_pos hcomponent] at h ⊢
    exact scanMarked_of_endsBefore h hends
  rw [if_neg hcomponent] at h ⊢
  by_cases hstart : isNameStart c
  · rw [if_pos hstart] at h ⊢
    obtain ⟨ht, hlength⟩ := Prod.mk.inj h
    have hname : nameAt (c :: cs ++ tail) = c :: cs := nameAt_eq_of_length hlength
    have hname' := nameAt_of_endsBefore (List.cons_ne_nil c cs) hname hends
    rw [List.cons_append] at hname hname'
    rw [hname] at ht
    rw [hname', ← ht]
    rfl
  · rw [if_neg hstart] at h ⊢
    exact scanSymbol_of_endsBefore h hends

/-- The token is read off the front of `piece ++ tail`, and takes the piece. -/
def Token.Leads (t : Token) (piece tail : List Char) : Prop :=
  ∃ c cs, piece = c :: cs ∧ ∀ start, scanToken start c (cs ++ tail) = (.ok t, cs.length + 1)

theorem leads_of_scanToken (start : ℕ) (c : Char) (cs : List Char)
    (h : scanToken start c (cs ++ tail) = (.ok t, cs.length + 1)) : t.Leads (c :: cs) tail :=
  ⟨c, cs, rfl, fun _ => scanToken_of_endsBefore h ((looksLike_refl tail).endsBefore c)⟩

/-- What a token is read off. -/
theorem exists_leads (h : scanToken start c rest = (.ok t, n)) :
    ∃ piece tail, c :: rest = piece ++ tail ∧ n = piece.length ∧ t.Leads piece tail := by
  obtain ⟨piece, tail, hcut, rfl, -⟩ := scanToken_takes h
  obtain ⟨d, cs, rfl⟩ := List.exists_cons_of_length_pos (scanToken_pos h)
  obtain ⟨rfl, rfl⟩ := List.cons.inj hcut
  exact ⟨c :: cs, tail, rfl, rfl, leads_of_scanToken start c cs h⟩

namespace Token.Leads

/-- A token is read off the same piece if what is behind it ends the token too. -/
theorem of_endsBefore (h : t.Leads piece tail) (hends : ∀ c ∈ piece.head?, EndsBefore c tail tail') :
    t.Leads piece tail' := by
  obtain ⟨c, cs, rfl, hscan⟩ := h
  exact ⟨c, cs, rfl, fun start => scanToken_of_endsBefore (hscan start) (hends c rfl)⟩

/-- A token is read off the same piece if what is behind it looks the same. -/
theorem of_looksLike (h : t.Leads piece tail) (hlike : LooksLike tail tail') : t.Leads piece tail' :=
  h.of_endsBefore fun c _ => hlike.endsBefore c

/-- With a blank or nothing behind it the piece is read as it is by itself. -/
theorem of_clear (h : t.Leads piece tail) (hclear : Clear tail') : t.Leads piece tail' :=
  h.of_looksLike (.inl hclear)

theorem spells (h : t.Leads piece tail) : t.Spells piece := by
  obtain ⟨c, cs, rfl, hscan⟩ := h
  obtain ⟨piece', tail', hcut, hlength, hspells⟩ := scanToken_takes (hscan 0)
  rw [← List.cons_append] at hcut
  rwa [(List.append_inj hcut hlength).1]

theorem head_not_isBlank (h : t.Leads piece tail) :
    ∀ c ∈ (piece ++ tail).head?, isBlank c = false := by
  obtain ⟨c, cs, rfl, hscan⟩ := h
  rintro _ ⟨⟩
  cases hc : isBlank c with
  | false => rfl
  | true =>
    have herror := hscan 0
    rw [scanToken_of_isBlank hc] at herror
    cases herror

end Token.Leads

end

end ExprLang
