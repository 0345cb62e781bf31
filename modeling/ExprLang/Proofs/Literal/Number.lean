import ExprLang.Proofs.Number.Arithmetic
import ExprLang.Compiled
import ExprLang.Evaluation
import ExprLang.Proofs.Number.Digits
import ExprLang.Proofs.Parser.Language
import ExprLang.Proofs.Token.Bytes
import ExprLang.Proofs.Value.Equality
import ExprLang.Proofs.Value.Exact

/-!
# Numbers as expressions

The text of a number is an expression: its digits are one token, and a sign before them is an operator
of its own.  Digits with a point are read as a decimal.  Digits without one are read as an integer,
also those of a decimal that has no places; so they have to be in the range of the integers before
the sign is applied, and the least integer, which is farther from zero than the largest, is not.

## Main definitions

* `Value.ReadsBack` — the text of a value is an expression that has this value in every context.
* `Decimal.token` — the token of a decimal's digits, or why there is none.

## Main results

* `Decimal.lexemesOf_text`, `Decimal.parse_text` — the tokens of a number's text, and what they make.
* `Value.number_reads_back` — **what numbers are read back from their texts**.

## References

`SPEC_FULL.md`, 10.1, on numbers; the reference's `read_number` and `parse_unary`.
-/

namespace ExprLang

/-- The text of a value is an expression, and whatever the context it has an equal value. -/
def Value.ReadsBack (v : Value) : Prop :=
  ∃ c w, Compiled.ofText v.text = .ok c ∧ (∀ context, c.tree.eval context = .ok w) ∧ v.equals w

/-! ### Digits as a token -/

namespace Decimal

variable {d : Decimal}

/-- The token of the digits, which begin at the given byte.  Without places they have to be an
integer. -/
def token (d : Decimal) (start : Nat) : Except ParseError Token :=
  if d.scale = 0 then
    (Integer.ofInt? d.coefficient).elim
      (.error (.invalidNumber (String.ofList d.magnitude) start)) fun n => .ok (.integer n)
  else .ok (.decimal (String.ofList d.magnitude))

theorem scanNumber_magnitude (d : Decimal) (start : Nat) :
    scanNumber start d.magnitude = (d.token start, d.magnitude.length) := by
  unfold token
  split
  · rename_i hscale
    -- without places the digits are all there is
    have hdigits : ∀ c ∈ d.magnitude, c.isDigit := by
      intro c hc
      rw [d.magnitude_of_scale_eq_zero hscale] at hc
      exact Nat.isDigit_of_mem_toDigits (by decide) (by decide) hc
    have htake : d.magnitude.takeWhile Char.isDigit = d.magnitude :=
      List.takeWhile_eq_self_iff.mpr hdigits
    have hdrop : d.magnitude.dropWhile Char.isDigit = [] := List.dropWhile_eq_nil_iff.mpr hdigits
    have hread : Integer.read? d.magnitude = Integer.ofInt? d.coefficient := by
      rw [d.magnitude_of_scale_eq_zero hscale, Integer.read?_toDigits]
    rw [scanNumber_of_digits (by simp [hdrop]), htake, hread]
  · rename_i hscale
    -- with places the point is followed by a digit, so that it goes with the number
    have hmagnitude : d.magnitude = d.whole ++ '.' :: d.places := if_neg hscale
    obtain ⟨p, ps, hplaces⟩ : ∃ p ps, d.places = p :: ps := by
      apply List.exists_cons_of_length_pos
      rw [length_places]
      omega
    have hdigits : ∀ c ∈ p :: ps, c.isDigit := hplaces ▸ fun c => isDigit_of_mem_places
    have htake : d.magnitude.takeWhile Char.isDigit = d.whole := by
      rw [hmagnitude, List.takeWhile_append_of_pos fun c => isDigit_of_mem_whole]
      simp
    have hdrop : d.magnitude.dropWhile Char.isDigit = '.' :: p :: ps := by
      rw [hmagnitude, List.dropWhile_append_of_pos fun c => isDigit_of_mem_whole, hplaces]
      simp
    have hrest : ps.takeWhile Char.isDigit = ps :=
      List.takeWhile_eq_self_iff.mpr fun c hc => hdigits c (List.mem_cons_of_mem _ hc)
    rw [scanNumber_of_point hdrop (hdigits p List.mem_cons_self), htake, hrest, ← hplaces,
      ← hmagnitude]

/-! ### The tokens of a text -/

/-- Digits at the end of a text are its last token, or the error that ends it. -/
theorem lexemes_magnitude (d : Decimal) (start : Nat) :
    (∀ t, d.token start = .ok t → ∃ stop,
      Cursor.lexemes ⟨d.magnitude, start⟩ = ⟨[⟨t, start, stop⟩], none, stop⟩) ∧
    ∀ e, d.token start = .error e → ∃ stop,
      Cursor.lexemes ⟨d.magnitude, start⟩ = ⟨[], some e, stop⟩ := by
  have hscan := d.scanNumber_magnitude start
  obtain ⟨c, cs, hcons, hc⟩ := d.exists_magnitude_eq_cons
  rw [hcons] at hscan ⊢
  have hblank := not_isBlank_of_isDigit hc
  have hskip : Cursor.skipBlanks ⟨c :: cs, start⟩ = ⟨c :: cs, start⟩ := by
    simp [Cursor.skipBlanks, hblank]
  have hrest : (Cursor.skipBlanks ⟨c :: cs, start⟩).rest = c :: cs := by rw [hskip]
  have htoken : scanToken (Cursor.skipBlanks ⟨c :: cs, start⟩).offset c cs =
      (d.token start, (c :: cs).length) := by
    rw [scanToken, if_pos hc, hskip, hscan]
  constructor
  · intro t ht
    rw [ht] at htoken
    have hnext := Cursor.next_of_token hrest htoken
    rw [hskip, Cursor.advance, List.drop_length, List.take_length] at hnext
    -- behind the digits nothing is left
    have hend : Cursor.next ⟨[], start + byteLength (c :: cs)⟩ =
        .finished ⟨[], start + byteLength (c :: cs)⟩ := rfl
    rw [Cursor.lexemes_of_lexeme hnext, Cursor.lexemes_of_finished hend]
    exact ⟨_, rfl⟩
  · intro e he
    rw [he] at htoken
    rw [Cursor.lexemes_of_failed (Cursor.next_of_error hrest htoken)]
    exact ⟨_, rfl⟩

/-- The sign as a lexeme. -/
def signLexemes (d : Decimal) : List Lexeme :=
  if d.negative then [⟨.operator .subtract, 0, 1⟩] else []

/-- The byte where the digits begin. -/
def digitsStart (d : Decimal) : Nat := if d.negative then 1 else 0

/-- The sign is a token of its own. -/
theorem lexemesOf_text (d : Decimal) :
    lexemesOf d.text =
      { Cursor.lexemes ⟨d.magnitude, d.digitsStart⟩ with
        lexemes := d.signLexemes ++ (Cursor.lexemes ⟨d.magnitude, d.digitsStart⟩).lexemes } := by
  rw [lexemesOf, Cursor.start, text, String.toList_ofList, chars_eq, signLexemes, digitsStart]
  cases d.negative with
  | false => rfl
  | true =>
    have hskip : Cursor.skipBlanks ⟨'-' :: d.magnitude, 0⟩ = ⟨'-' :: d.magnitude, 0⟩ := by
      simp [Cursor.skipBlanks, show isBlank '-' = false from rfl]
    -- no symbol of two characters begins with a minus sign
    obtain ⟨c, cs, hcons, -⟩ := d.exists_magnitude_eq_cons
    have hsign : scanToken (Cursor.skipBlanks ⟨'-' :: d.magnitude, 0⟩).offset '-' d.magnitude =
        (.ok (.operator .subtract), 1) := by
      rw [hcons]
      rfl
    have hnext := Cursor.next_of_token (by rw [hskip]) hsign
    rw [hskip] at hnext
    exact Cursor.lexemes_of_lexeme hnext

theorem not_isBlankText_text (d : Decimal) : ¬ isBlankText d.text := by
  obtain ⟨c, cs, hcons, hc⟩ := d.exists_magnitude_eq_cons
  have hmem : c ∈ d.text.toList := by
    rw [text, String.toList_ofList, chars_eq, hcons]
    simp
  intro hblank
  have hc' := List.all_eq_true.mp hblank c hmem
  rw [not_isBlank_of_isDigit hc] at hc'
  cases hc'

/-! ### The expression -/

/-- An atom, behind the sign if there is one. -/
def operand (d : Decimal) {t : Token} {e : Expr} (h : Atom t e) : Derivation .unary :=
  if d.negative then .unary .negate (.tighter (.atom h)) else .tighter (.atom h)

/-- The operand as an expression. -/
def phrase (d : Decimal) {t : Token} {e : Expr} (h : Atom t e) : Derivation .ternary :=
  .tighter (.tighter (.tighter (.tighter (.tighter (.tighter (.tighter (d.operand h)))))))

/-- If the digits are an atom, then the text is this atom with the sign. -/
theorem parse_text {t : Token} {e : Expr} (htoken : d.token d.digitsStart = .ok t) (h : Atom t e) :
    parse d.text = .ok (if d.negative then .unary .negate e else e) := by
  obtain ⟨stop, hlexemes⟩ := (d.lexemes_magnitude d.digitsStart).1 t htoken
  have htext := d.lexemesOf_text
  rw [hlexemes] at htext
  have htokens : (lexemesOf d.text).lexemes.map Lexeme.token = (d.phrase h).tokens := by
    rw [htext, signLexemes, phrase, operand]
    cases d.negative <;> rfl
  -- one level for the literal, one more for the sign: far below the limit
  have hcharge : (d.phrase h).charge = if d.negative then 2 else 1 := by
    rw [phrase, operand]
    cases d.negative <;> rfl
  have htree : (d.phrase h).tree = if d.negative then .unary .negate e else e := by
    rw [phrase, operand]
    cases d.negative <;> rfl
  rw [parse, if_neg d.not_isBlankText_text, ← htree]
  rcases parseLexemes_of_derivation (by rw [htext]) htokens with hread | ⟨hlt, -⟩
  · exact hread
  · rw [hcharge] at hlt
    split at hlt <;> exact absurd hlt (by decide)

/-- If the digits are no token, then their error is that of the text. -/
theorem parse_text_error {e : ParseError} (htoken : d.token d.digitsStart = .error e) :
    parse d.text = .error e := by
  obtain ⟨stop, hlexemes⟩ := (d.lexemes_magnitude d.digitsStart).2 e htoken
  rw [parse, if_neg d.not_isBlankText_text, lexemesOf_text, hlexemes, signLexemes]
  cases d.negative <;> rfl

/-! ### Its value -/

/-- Places, or digits in the range of the integers, make a literal of the number without its sign; and
the sign can be applied. -/
theorem exists_literal (h : d.scale ≠ 0 ∨ d.coefficient < 2 ^ 63) (start : Nat) :
    ∃ t l, d.token start = .ok t ∧ Atom t (.literal l) ∧
      l.value.atom? = some (.number (d.withSign false).toRat) ∧
      ∃ v, l.value.negate = .ok v ∧ v.atom? = some (.number (d.withSign true).toRat) := by
  by_cases hscale : d.scale = 0
  · have hlt : d.coefficient < 2 ^ 63 := h.resolve_left fun hne => hne hscale
    obtain ⟨n, hn⟩ : ∃ n : Int64, n.toInt = d.coefficient :=
      Integer.exists_eq (by omega) (by omega)
    obtain ⟨m, hm⟩ : ∃ m : Int64, m.toInt = -n.toInt :=
      Integer.exists_eq (by omega) (by omega)
    refine ⟨.integer n, .integer n, ?_, .integer n, ?_, .integer m, ?_, ?_⟩
    · rw [token, if_pos hscale, Integer.ofInt?_eq_some_iff.mpr hn]
      rfl
    · simp [Literal.value, Value.atom?, toRat, Decimal.signed, withSign, hscale, hn]
    · rw [Literal.value, Value.negate, Integer.neg?, Integer.ofInt?_eq_some_iff.mpr hm]
    · simp [Value.atom?, toRat, Decimal.signed, withSign, hscale, hm, hn]
  · -- a decimal token is not bound to the range of the integers
    have hread : read? (String.ofList d.magnitude).toList = some (d.withSign false) := by
      rw [String.toList_ofList, read?_magnitude]
    exact ⟨_, _, if_neg hscale, .decimal hread, rfl, _, rfl, rfl⟩

theorem withSign_of_negative {negative : Bool} (h : d.negative = negative) :
    d.withSign negative = d := by
  subst h
  rfl

/-- The text of such a decimal has the number for its value. -/
theorem exists_eval_text (h : d.scale ≠ 0 ∨ d.coefficient < 2 ^ 63) :
    ∃ c v, Compiled.ofText d.text = .ok c ∧ (∀ context, c.tree.eval context = .ok v) ∧
      v.atom? = some (.number d.toRat) := by
  obtain ⟨t, l, htoken, hatom, hplus, v, hnegate, hminus⟩ := exists_literal h d.digitsStart
  have hparse := parse_text htoken hatom
  -- the sign is no part of the literal: a negative number is a negation of one
  cases hd : d.negative with
  | false =>
    rw [withSign_of_negative hd] at hplus
    rw [hd, if_neg (by decide)] at hparse
    refine ⟨⟨d.text, .literal l⟩, l.value, ?_, fun context => rfl, hplus⟩
    rw [Compiled.ofText, hparse]
    rfl
  | true =>
    rw [withSign_of_negative hd] at hminus
    rw [hd, if_pos rfl] at hparse
    refine ⟨⟨d.text, .unary .negate (.literal l)⟩, v, ?_, fun context => hnegate, hminus⟩
    rw [Compiled.ofText, hparse]
    rfl

/-- Digits without places that are beyond the range are no number. -/
theorem ofText_text_error (hscale : d.scale = 0) (h : 2 ^ 63 ≤ d.coefficient) :
    Compiled.ofText d.text =
      .error (.invalidNumber (String.ofList (Nat.toDigits 10 d.coefficient)) d.digitsStart) := by
  have hnone : Integer.ofInt? d.coefficient = none := by
    rw [Integer.ofInt?, if_neg]
    omega
  have htoken : d.token d.digitsStart =
      .error (.invalidNumber (String.ofList (Nat.toDigits 10 d.coefficient)) d.digitsStart) := by
    rw [token, if_pos hscale, hnone, d.magnitude_of_scale_eq_zero hscale]
    rfl
  rw [Compiled.ofText, parse_text_error htoken]
  rfl

end Decimal

/-! ### Integers and decimals -/

/-- An integer is written as the decimal without places is. -/
theorem Integer.text_eq (n : Int64) : Integer.text n = (Decimal.ofInteger n).text := by
  have hmagnitude : (Decimal.ofInteger n).magnitude = Nat.toDigits 10 n.toInt.natAbs :=
    Decimal.magnitude_of_scale_eq_zero _ rfl
  have hsign : (Decimal.ofInteger n).negative = decide (n.toInt < 0) := rfl
  rw [Integer.text, intText, Decimal.text, Decimal.chars_eq, hmagnitude, hsign]
  by_cases hn : n.toInt < 0 <;> simp [hn]

namespace Value

section

variable {v : Value} {d : Decimal}

theorem text_of_asDecimal? (hv : v.asDecimal? = some d) : v.text = d.text := by
  cases v <;> cases hv
  · exact Integer.text_eq _
  · rfl

theorem atom?_of_asDecimal? (hv : v.asDecimal? = some d) : v.atom? = some (.number d.toRat) := by
  cases v <;> cases hv
  · simp [atom?]
  · rfl

theorem readsBack_of_asDecimal? (hv : v.asDecimal? = some d)
    (h : d.scale ≠ 0 ∨ d.coefficient < 2 ^ 63) : v.ReadsBack := by
  obtain ⟨c, w, hcompiled, heval, hw⟩ := Decimal.exists_eval_text h
  rw [← text_of_asDecimal? hv] at hcompiled
  exact ⟨c, w, hcompiled, heval, (equals_iff_of_atom (atom?_of_asDecimal? hv) w).mpr hw⟩

theorem ofText_error_of_asDecimal? (hv : v.asDecimal? = some d) (hscale : d.scale = 0)
    (h : 2 ^ 63 ≤ d.coefficient) :
    Compiled.ofText v.text =
      .error (.invalidNumber (String.ofList (Nat.toDigits 10 d.coefficient)) d.digitsStart) := by
  rw [text_of_asDecimal? hv]
  exact Decimal.ofText_text_error hscale h

/-- What is not compiled is not read back. -/
theorem not_readsBack_of_error {e : ParseError} (h : Compiled.ofText v.text = .error e) :
    ¬ v.ReadsBack := by
  rintro ⟨c, w, hcompiled, -⟩
  rw [h] at hcompiled
  cases hcompiled

end

/-- **What numbers are read back from their texts.**  Every integer but the least is, and every decimal
that has places or is in the range of the positive integers.  The text of any other number is no
expression: its digits are no integer, whatever sign stands before them. -/
theorem number_reads_back :
    (∀ n : Int64, n ≠ Int64.minValue → (integer n).ReadsBack) ∧
    (∀ d : Decimal, d.scale ≠ 0 ∨ d.coefficient < 2 ^ 63 → (decimal d).ReadsBack) ∧
    Compiled.ofText (integer Int64.minValue).text =
      .error (.invalidNumber "9223372036854775808" 1) ∧
    ∀ d : Decimal, d.scale = 0 → 2 ^ 63 ≤ d.coefficient →
      Compiled.ofText (decimal d).text = .error (.invalidNumber
        (String.ofList (Nat.toDigits 10 d.coefficient)) (if d.negative then 1 else 0)) := by
  refine ⟨fun n hn => ?_, fun d hd => readsBack_of_asDecimal? rfl hd, ?least,
    fun d hscale hd => ofText_error_of_asDecimal? rfl hscale hd⟩
  case least => exact ofText_error_of_asDecimal? (d := .ofInteger Int64.minValue) rfl rfl (by decide)
  have hlow := Int64.le_toInt n
  have hhigh := Int64.toInt_lt n
  have hmin : n.toInt ≠ -2 ^ 63 := fun h => hn (Int64.toInt_inj.mp h)
  refine readsBack_of_asDecimal? (d := .ofInteger n) rfl (.inr ?_)
  change n.toInt.natAbs < 2 ^ 63
  omega

/-- The integer next to the least one, the decimal that is nearest to zero on its negative side and the
first whole decimal that is too large. -/
theorem number_reads_back_of_extremes :
    (integer (-9223372036854775807)).ReadsBack ∧
    (decimal ⟨true, 1, 28, by decide, by decide⟩).ReadsBack ∧
    Compiled.ofText (decimal ⟨true, 2 ^ 63, 0, by decide, by decide⟩).text =
      .error (.invalidNumber (String.ofList (Nat.toDigits 10 (2 ^ 63))) 1) := by
  obtain ⟨hinteger, hdecimal, -, hlarge⟩ := number_reads_back
  exact ⟨hinteger _ (by decide), hdecimal _ (by decide), hlarge _ rfl (by decide)⟩

/-- Neither the least integer is read back from its text, nor a whole decimal of the same magnitude. -/
theorem least_integer_not_read_back :
    (integer Int64.minValue).text = "-9223372036854775808" ∧
    ¬ (integer Int64.minValue).ReadsBack ∧
    ¬ (decimal ⟨false, 2 ^ 63, 0, by decide, by decide⟩).ReadsBack := by
  refine ⟨by decide +kernel, ?_, ?_⟩
  · have herror := ofText_error_of_asDecimal? (v := integer Int64.minValue) rfl rfl (by decide)
    exact not_readsBack_of_error herror
  · exact not_readsBack_of_error (ofText_error_of_asDecimal? rfl rfl (by decide))

end Value

end ExprLang
