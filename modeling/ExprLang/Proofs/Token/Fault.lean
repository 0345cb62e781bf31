import Mathlib.Algebra.Ring.Parity
import ExprLang.Proofs.Number.Overflow
import ExprLang.Proofs.Token.Failure
import ExprLang.Proofs.Token.Respelling

/-!
# What errors of tokens report

An error of tokens says where it stands, and what it is about can be seen there.  A character that is
unexpected is one that no token begins with, or not with what is behind it.  A number without room is
all of the digits that stand there, on both sides of a point if there are digits on both sides.  A
string that does not end is a quote, and every other quote of its kind behind it has a backslash before
it that takes it along.

## Main definitions

* `symbols`, `BeginsNoToken` — the symbols, and the characters that no token is read off.
* `trailingBackslashes` — the backslashes right before a place.
* `Fault before e rest` — the error `e` is about `rest`, which stands behind `before`.

## Main results

* `stringBody?_eq_none_iff` — **a string does not end** if all the quotes behind its first one are
  escaped.
* `BeginsNoToken.not_leads` — no token is read off the front of such characters, however far it goes.
* `fault_of_scanToken` — the errors of the scanner are about what it looks at.
-/

namespace ExprLang

/-! ### Quotes behind backslashes -/

/-- The number of backslashes at the end of characters.  The last of them takes along what comes next
if they are odd in number. -/
def trailingBackslashes (cs : List Char) : ℕ := (cs.reverse.takeWhile (· == '\\')).length

theorem trailingBackslashes_concat (cs : List Char) (c : Char) :
    trailingBackslashes (cs ++ [c]) = if c = '\\' then trailingBackslashes cs + 1 else 0 := by
  rw [trailingBackslashes, List.reverse_concat, List.takeWhile_cons]
  by_cases hc : c = '\\' <;> simp [hc, trailingBackslashes]

/-- A backslash at the end has nothing to take along, unless one before it has taken it along. -/
theorem dangles_concat (cs : List Char) (c : Char) :
    dangles (cs ++ [c]) = (c == '\\' && !dangles cs) := by
  fun_induction dangles cs with
  | case1 =>
    by_cases hc : c = '\\'
    · subst hc
      rfl
    · rw [List.nil_append, dangles_plain hc, beq_false_of_ne hc]
      rfl
  | case2 => cases c == '\\' <;> rfl
  | case3 d rest ih => exact ih
  | case4 d rest hone hescape ih =>
    have hd := ne_backslash hone hescape
    rw [List.cons_append, dangles_plain hd]
    exact ih

theorem dangles_iff (cs : List Char) : dangles cs ↔ Odd (trailingBackslashes cs) := by
  induction cs using List.reverseRecOn with
  | nil => simp [dangles, trailingBackslashes]
  | append_singleton cs c ih =>
    rw [dangles_concat, trailingBackslashes_concat]
    by_cases hc : c = '\\'
    · rw [if_pos hc, Nat.odd_add_one, ← ih, hc]
      simp
    · rw [if_neg hc, beq_false_of_ne hc]
      simp

section

variable {quote : Char} {body cs rest : List Char}

/-- A quote that nothing takes along ends a string. -/
theorem dangles_of_stringBody?_eq_none (hquote : quote ≠ '\\')
    (h : stringBody? quote (body ++ quote :: rest) = none) : dangles body := by
  fun_induction dangles body with
  | case1 =>
    rw [List.nil_append, stringBody?_quote hquote] at h
    cases h
  | case2 => rfl
  | case3 c body ih =>
    rw [List.cons_append, List.cons_append, stringBody?_escaped, Option.map_eq_none_iff] at h
    exact ih h
  | case4 c body hone hescape ih =>
    have hc := ne_backslash hone hescape
    by_cases heq : c = quote
    · rw [heq, List.cons_append, stringBody?_quote hquote] at h
      cases h
    · rw [List.cons_append, stringBody?_plain hc heq, Option.map_eq_none_iff] at h
      exact ih h

/-- **A string does not end** if every quote of its kind has an odd number of backslashes right before
it. -/
theorem stringBody?_eq_none_iff (hquote : quote ≠ '\\') :
    stringBody? quote cs = none ↔
      ∀ body rest, cs = body ++ quote :: rest → Odd (trailingBackslashes body) := by
  constructor
  · rintro h body rest rfl
    exact (dangles_iff body).mp (dangles_of_stringBody?_eq_none hquote h)
  · intro hodd
    rw [Option.eq_none_iff_forall_ne_some]
    intro body hbody
    obtain ⟨rest, rfl⟩ := exists_eq_append_of_stringBody? hbody
    have hdangles := (not_hasBare_of_stringBody? hbody).2
    rw [(dangles_iff body).mpr (hodd body rest rfl)] at hdangles
    cases hdangles

end

/-! ### Characters that no token begins with -/

/-- The symbols of the language. -/
def symbols : List String :=
  ["==", "!=", "<=", ">=", "&&", "||", "?:", "?.", "+", "-", "*", "/", "%", "<", ">", "!", "?", ":",
    ".", ",", "(", ")", "[", "]", "\x7b", "\x7d"]

/-- No token begins with the character `c` before `rest`: no number, no string, no word and no symbol,
and no name stands behind it if it is a marker. -/
structure BeginsNoToken (c : Char) (rest : List Char) : Prop where
  digit : c.isDigit = false
  quote : ¬ (c = '\'' ∨ c = '"')
  word : isNameStart c = false
  marked : c = '#' ∨ c = '@' → ∀ d ∈ rest.head?, isNameStart d = false
  symbol : ∀ s ∈ symbols, ¬ s.toList <+: c :: rest

section

variable {c d : Char} {start n : ℕ} {rest : List Char} {t : Token} {e : ParseError}

/-- The scanner knows all the symbols. -/
theorem symbolOf_of_mem : ∀ s ∈ symbols, (match s.toList with
    | [c] => (symbolOfOne? c).isSome
    | [c, d] => (symbolOfTwo? c d).isSome
    | _ => false) = true := by
  decide

theorem mem_symbols_of_symbolOfOne? (h : symbolOfOne? c = some t) : String.ofList [c] ∈ symbols := by
  unfold symbolOfOne? at h
  split at h
  case h_19 => cases h
  all_goals decide

theorem mem_symbols_of_symbolOfTwo? (h : symbolOfTwo? c d = some t) :
    String.ofList [c, d] ∈ symbols := by
  unfold symbolOfTwo? at h
  split at h
  case h_9 => cases h
  all_goals decide

/-- The scanner finds no symbol exactly if none is there. -/
theorem no_symbol_iff :
    (rest.head?.bind (symbolOfTwo? c) = none ∧ symbolOfOne? c = none) ↔
      ∀ s ∈ symbols, ¬ s.toList <+: c :: rest := by
  constructor
  · rintro ⟨htwo, hone⟩ s hs hbegins
    have hknown := symbolOf_of_mem s hs
    split at hknown
    · next c' heq =>
      rw [heq, List.cons_prefix_cons] at hbegins
      rw [hbegins.1, hone] at hknown
      cases hknown
    · next c' d' heq =>
      rw [heq, List.cons_prefix_cons] at hbegins
      obtain ⟨rfl, tail, rfl⟩ := hbegins
      rw [show symbolOfTwo? c' d' = none from htwo] at hknown
      cases hknown
    · cases hknown
  · -- a symbol that is read is one of those listed, and would stand in front
    intro hnone
    refine ⟨?_, ?_⟩
    · rw [Option.bind_eq_none_iff]
      intro d hd
      obtain ⟨tail, rfl⟩ := List.head?_eq_some_iff.mp hd
      rw [Option.eq_none_iff_forall_ne_some]
      intro t ht
      refine hnone _ (mem_symbols_of_symbolOfTwo? ht) ?_
      rw [String.toList_ofList]
      exact List.prefix_append [c, d] tail
    · rw [Option.eq_none_iff_forall_ne_some]
      intro t ht
      refine hnone _ (mem_symbols_of_symbolOfOne? ht) ?_
      rw [String.toList_ofList]
      exact List.prefix_append [c] rest

/-- A marker needs a name behind it, and begins nothing else. -/
theorem beginsNoToken_of_marker (hc : c = '#' ∨ c = '@')
    (hname : ∀ d ∈ rest.head?, isNameStart d = false) : BeginsNoToken c rest where
  digit := by rcases hc with rfl | rfl <;> rfl
  quote := by rcases hc with rfl | rfl <;> decide
  word := by rcases hc with rfl | rfl <;> rfl
  marked _ := hname
  symbol := by
    refine no_symbol_iff.mp ⟨?_, ?_⟩
    · rw [Option.bind_eq_none_iff]
      intro d _
      rcases hc with rfl | rfl <;> rfl
    · rcases hc with rfl | rfl <;> rfl

theorem nameAt_eq_nil_iff : nameAt rest = [] ↔ ∀ d ∈ rest.head?, isNameStart d = false := by
  cases rest with
  | nil => simp [nameAt]
  | cons d rest => cases hd : isNameStart d <;> simp [nameAt, hd]

/-- On such a character the scanner fails, and says which one it is. -/
theorem BeginsNoToken.exists_scanToken (h : BeginsNoToken c rest) (start : ℕ) :
    ∃ n, scanToken start c rest = (.error (.unexpectedCharacter c start), n) := by
  rw [scanToken, if_neg (by simp [h.digit]), if_neg h.quote]
  by_cases hmarker : c = '#' ∨ c = '@'
  · have hnone := nameAt_eq_nil_iff.mpr (h.marked hmarker)
    refine ⟨1, ?_⟩
    rcases hmarker with rfl | rfl <;> simp [scanMarked, hnone]
  · obtain ⟨hbinding, hcomponent⟩ := not_or.mp hmarker
    obtain ⟨htwo, hone⟩ := no_symbol_iff.mpr h.symbol
    refine ⟨0, ?_⟩
    rw [if_neg hbinding, if_neg hcomponent, if_neg (by simp [h.word]), scanSymbol, htwo, hone]

/-- It is no other with less behind it. -/
theorem BeginsNoToken.of_isPrefix {cs : List Char} (h : BeginsNoToken c rest) (hcs : cs <+: rest) :
    BeginsNoToken c cs where
  digit := h.digit
  quote := h.quote
  word := h.word
  marked hmarker d hd := by
    obtain ⟨tail, rfl⟩ := hcs
    refine h.marked hmarker d ?_
    rw [List.head?_append, Option.mem_def.mp hd]
    rfl
  symbol s hs hbegins := h.symbol s hs (hbegins.trans ((List.cons_prefix_cons).mpr ⟨rfl, hcs⟩))

/-- No token is read off the front of such characters, however far it goes and whatever is put behind
it. -/
theorem BeginsNoToken.not_leads {piece tail : List Char} (h : BeginsNoToken c rest)
    (hpiece : piece <+: c :: rest) : ¬ t.Leads piece tail := by
  intro hleads
  obtain ⟨d, cs, rfl, hscan⟩ := hleads.of_clear clear_nil
  obtain ⟨rfl, hcs⟩ := List.cons_prefix_cons.mp hpiece
  obtain ⟨n, herror⟩ := (h.of_isPrefix hcs).exists_scanToken 0
  have htoken := hscan 0
  rw [List.append_nil, herror] at htoken
  cases htoken

end

/-! ### What is before a token -/

section

variable {c d : Char} {start : ℕ} {cs piece tail : List Char} {t : Token}

theorem not_isDigit_of_symbolOfTwo? (h : symbolOfTwo? c d = some t) : d.isDigit = false := by
  unfold symbolOfTwo? at h
  split at h
  case h_9 => cases h
  all_goals rfl

/-- A name that ends with a digit would have gone on over another one. -/
theorem not_isDigit_of_nameAt (hne : cs ≠ []) (h : nameAt (cs ++ tail) = cs) :
    ∀ d ∈ tail.head?, d.isDigit = false := by
  intro d hd
  exact not_isDigit_of_not_isNameChar (not_isNameChar_of_nameAt hne h d hd)

/-- Between two digits no token ends and no other begins. -/
theorem Token.Leads.not_isDigit_getLast (h : t.Leads piece tail) (hd : d ∈ tail.head?)
    (hdigit : d.isDigit) : ∀ c ∈ piece.getLast?, c.isDigit = false := by
  have hnot : ¬ ∀ d ∈ tail.head?, d.isDigit = false := by
    intro hall
    rw [hall d hd] at hdigit
    cases hdigit
  obtain ⟨c, cs, rfl, hscan⟩ := h
  have htoken := hscan 0
  unfold scanToken at htoken
  split at htoken
  · -- a number takes all of the digits
    have hnumeral : Numeral tail t (c :: cs) := numeral_of_scanNumber htoken
    exact absurd hnumeral.not_isDigit hnot
  next hfirst =>
  split at htoken
  · next hquote =>
    obtain ⟨body, rfl, -⟩ := exists_of_scanString htoken
    intro q hq
    rw [← List.cons_append, List.getLast?_concat, Option.mem_some_iff] at hq
    subst hq
    rcases hquote with rfl | rfl <;> rfl
  split at htoken
  · obtain ⟨hne, hname, -⟩ := nameAt_of_scanMarked htoken
    exact absurd (not_isDigit_of_nameAt hne hname) hnot
  split at htoken
  · obtain ⟨hne, hname, -⟩ := nameAt_of_scanMarked htoken
    exact absurd (not_isDigit_of_nameAt hne hname) hnot
  split at htoken
  · obtain ⟨-, hlength⟩ := Prod.mk.inj htoken
    have hname : nameAt (c :: cs ++ tail) = c :: cs := nameAt_eq_of_length hlength
    exact absurd (not_isDigit_of_nameAt (List.cons_ne_nil c cs) hname) hnot
  · unfold scanSymbol at htoken
    split at htoken
    · rename_i s hs
      obtain ⟨e, rfl⟩ := List.length_eq_one_iff.mp (Nat.succ.inj (Prod.mk.inj htoken).2).symm
      intro q hq
      obtain rfl : e = q := by simpa using hq
      exact not_isDigit_of_symbolOfTwo? hs
    · split at htoken
      · obtain rfl := List.length_eq_zero_iff.mp (Nat.succ.inj (Prod.mk.inj htoken).2).symm
        intro q hq
        obtain rfl : c = q := by simpa using hq
        exact eq_false_of_ne_true hfirst
      · cases htoken

/-- What was passed on the way to a token reads as the tokens that were read, and stands apart from it:
there are no digits on both sides of the place. -/
theorem Cursor.Reads.exists_before {c c' : Cursor} {ls : List Lexeme} (h : c.Reads ls c') :
    ∃ before, c.rest = before ++ c'.skipBlanks.rest ∧
      c'.skipBlanks.offset = c.offset + byteLength before ∧
      ReadAs before (ls.map Lexeme.token) ∧
      ∀ d ∈ c'.skipBlanks.rest.head?, d.isDigit → ∀ e ∈ before.getLast?, e.isDigit = false := by
  induction h with
  | none c =>
    refine ⟨c.rest.takeWhile isBlank, List.takeWhile_append_dropWhile.symm, rfl,
      .finished List.all_takeWhile, fun d _ _ e he => ?_⟩
    have hblank := List.all_eq_true.mp List.all_takeWhile e (List.mem_of_getLast? he)
    exact not_isDigit_of_isBlank hblank
  | @next c after c' l ls hnext _ ih =>
    obtain ⟨before, hrest, hoffset, hread, hapart⟩ := ih
    obtain ⟨gap, piece, hgap, hcut, hleads⟩ := exists_leads hnext
    obtain ⟨gap', piece', htaken⟩ := exists_taken hnext
    -- the place of the token and the token itself are known from two cuts, which are the same
    have hsame : gap' ++ piece' = gap ++ piece := by
      have hwhole : (gap' ++ piece') ++ after.rest = (gap ++ piece) ++ after.rest := by
        rw [List.append_assoc, List.append_assoc, ← hcut, htaken.rest]
      exact List.append_cancel_right hwhole
    have hafter : after.offset = c.offset + byteLength (gap ++ piece) := by
      rw [htaken.offset, htaken.stop, htaken.start, ← hsame, byteLength_append, Nat.add_assoc]
    refine ⟨gap ++ (piece ++ before), ?_, ?_, ?_, ?_⟩
    · rw [hcut, hrest, List.append_assoc, List.append_assoc]
    · rw [hoffset, hafter, ← List.append_assoc, byteLength_append (gap ++ piece), Nat.add_assoc]
    · rw [List.map_cons]
      rw [hrest] at hleads
      exact .token hgap (hleads.of_looksLike (looksLike_of_append before _)) hread
    · intro d hd hdigit e he
      cases before with
      | nil =>
        -- then the token stands right before the digit
        have hne : piece ≠ [] := by
          obtain ⟨p, ps, rfl, -⟩ := hleads
          exact List.cons_ne_nil p ps
        rw [List.nil_append] at hrest
        rw [List.append_nil, List.getLast?_append_of_ne_nil _ hne] at he
        exact hleads.not_isDigit_getLast (hrest ▸ hd) hdigit e he
      | cons b bs =>
        have hne := List.cons_ne_nil b bs
        rw [List.getLast?_append_of_ne_nil _ (List.append_ne_nil_of_right_ne_nil piece hne),
          List.getLast?_append_of_ne_nil _ hne] at he
        exact hapart d hd hdigit e he

end

/-! ### Errors -/

/-- The error is about the characters `rest`, and stands where they do, behind `before`. -/
inductive Fault (before : List Char) : ParseError → List Char → Prop
  /-- A character that no token begins with, however far it might go and whatever might be behind it. -/
  | character {c : Char} {rest : List Char} (h : BeginsNoToken c rest)
    (hnone : ∀ (t : Token) (piece tail : List Char), piece <+: c :: rest → ¬ t.Leads piece tail) :
    Fault before (.unexpectedCharacter c (byteLength before)) (c :: rest)
  /-- All the digits that stand there, without a point and digits behind them. -/
  | integer {whole tail : List Char} (hne : whole ≠ []) (hwhole : ∀ c ∈ whole, c.isDigit)
    (hbefore : ∀ c ∈ before.getLast?, c.isDigit = false)
    (htail : ∀ c ∈ tail.head?, c.isDigit = false)
    (hpoint : ¬ ∃ d rest, tail = '.' :: d :: rest ∧ d.isDigit)
    (hlarge : 2 ^ 63 ≤ Nat.ofDigitChars 10 whole 0) :
    Fault before (.invalidNumber (String.ofList whole) (byteLength before)) (whole ++ tail)
  /-- All the digits on both sides of a point. -/
  | decimal {whole places tail : List Char} {d : Char} (hne : whole ≠ [])
    (hwhole : ∀ c ∈ whole, c.isDigit) (hplaces : ∀ c ∈ d :: places, c.isDigit)
    (hbefore : ∀ c ∈ before.getLast?, c.isDigit = false)
    (htail : ∀ c ∈ tail.head?, c.isDigit = false) (hlarge : Decimal.TooLarge whole (d :: places)) :
    Fault before
      (.invalidNumber (String.ofList (whole ++ '.' :: d :: places)) (byteLength before))
      (whole ++ '.' :: d :: places ++ tail)
  /-- A quote, and no other one of its kind that is not escaped. -/
  | string {quote : Char} {rest : List Char} (hquote : quote = '\'' ∨ quote = '"')
    (hopen : ∀ body after, rest = body ++ quote :: after → Odd (trailingBackslashes body)) :
    Fault before (.unterminatedString (byteLength before)) (quote :: rest)

theorem Fault.ne_nil {before rest : List Char} {e : ParseError} (h : Fault before e rest) :
    rest ≠ [] := by
  cases h with
  | character | string => exact List.cons_ne_nil _ _
  | integer hne | decimal hne => simp [hne]

theorem BeginsNoToken.fault {c : Char} {rest : List Char} (h : BeginsNoToken c rest)
    (before : List Char) :
    Fault before (.unexpectedCharacter c (byteLength before)) (c :: rest) :=
  .character h fun _ _ _ hpiece => h.not_leads hpiece

/-- The error points to what it is about. -/
theorem Fault.position? {before rest : List Char} {e : ParseError} (h : Fault before e rest) :
    e.position? = some (byteLength before) := by
  cases h <;> rfl

section

variable {c : Char} {n : ℕ} {before rest : List Char} {e : ParseError}

theorem fault_of_scanNumber (hc : c.isDigit) (hbefore : ∀ d ∈ before.getLast?, d.isDigit = false)
    (h : scanNumber (byteLength before) (c :: rest) = (.error e, n)) : Fault before e (c :: rest) := by
  have hdigits : ∀ d ∈ (c :: rest).takeWhile Char.isDigit, d.isDigit :=
    fun d => List.mem_takeWhile_imp
  have hne : (c :: rest).takeWhile Char.isDigit ≠ [] := by
    rw [List.takeWhile_cons_of_pos hc]
    exact List.cons_ne_nil _ _
  -- a number with a point is scanned without being read, so only an integer can fail here
  by_cases hpoint : ∃ d tail, (c :: rest).dropWhile Char.isDigit = '.' :: d :: tail ∧ d.isDigit
  · obtain ⟨d, tail, htail, hd⟩ := hpoint
    rw [scanNumber_of_point htail hd] at h
    cases h
  · rw [scanNumber_of_digits hpoint] at h
    cases hread : Integer.read? ((c :: rest).takeWhile Char.isDigit) with
    | some m =>
      rw [hread] at h
      cases h
    | none =>
      rw [hread] at h
      cases h
      have hlarge := (Integer.read?_eq_none_iff hne hdigits).mp hread
      have hfault := Fault.integer hne hdigits hbefore head?_dropWhile hpoint hlarge
      rwa [List.takeWhile_append_dropWhile] at hfault

/-- **The errors of the scanner are about what it looks at.**  Digits are told from those before them by
what was read there. -/
theorem fault_of_scanToken (hbefore : c.isDigit → ∀ d ∈ before.getLast?, d.isDigit = false)
    (h : scanToken (byteLength before) c rest = (.error e, n)) : Fault before e (c :: rest) := by
  unfold scanToken at h
  split at h
  · next hdigit => exact fault_of_scanNumber hdigit (hbefore hdigit) h
  next hdigit =>
  split at h
  · next hquote =>
    unfold scanString at h
    split at h
    · cases h
    · next hnone =>
      cases h
      have hbackslash : c ≠ '\\' := by rcases hquote with rfl | rfl <;> decide
      exact .string hquote ((stringBody?_eq_none_iff hbackslash).mp hnone)
  next hquote =>
  -- a marker fails for want of a name
  have hmarked : ∀ token : String → Token, c = '#' ∨ c = '@' →
      scanMarked (byteLength before) c token rest = (.error e, n) → Fault before e (c :: rest) := by
    intro token hmarker h
    unfold scanMarked at h
    split at h
    · next hnone =>
      cases h
      exact (beginsNoToken_of_marker hmarker (nameAt_eq_nil_iff.mp hnone)).fault before
    · cases h
  split at h
  · next hmarker => exact hmarked .binding (.inl hmarker) h
  next hbinding =>
  split at h
  · next hmarker => exact hmarked .component (.inr hmarker) h
  next hcomponent =>
  split at h
  · cases h
  next hword =>
  unfold scanSymbol at h
  split at h
  · cases h
  next htwo =>
  split at h
  · cases h
  next hone =>
  cases h
  have hnone : BeginsNoToken c rest :=
    { digit := eq_false_of_ne_true hdigit
      quote := hquote
      word := eq_false_of_ne_true hword
      marked := fun hmarker => absurd hmarker (not_or.mpr ⟨hbinding, hcomponent⟩)
      symbol := no_symbol_iff.mp ⟨htwo, hone⟩ }
  exact hnone.fault before

end

end ExprLang
