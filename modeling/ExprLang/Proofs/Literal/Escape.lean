import ExprLang.Expr.Parser
import Mathlib.Data.List.Induction
import Mathlib.Tactic.IntervalCases

/-!
# What escapes stand for

The body of a string literal is a row of characters that stand for themselves and of escapes, each of
which names a character.  An escape is a backslash with one of six letters, or with a `u` and the code
point in four hexadecimal digits; a code point of a surrogate names no character.  A body can be
decoded exactly if every backslash that is not part of an escape before it begins one.

There is one more way to write a code point that is read: a plus sign in the place of the first of the
four digits.

## Main definitions

* `HexDigit`, `HexNumber` — digits of base sixteen and the numbers they stand for.
* `Escape`, `SignedEscape` — the escapes of the language, and those with a sign.
* `Decodes esc body s` — the body stands for `s`, where `esc` tells which escapes name what.

## Main results

* `unescape_eq_ok_iff` — what a body is decoded to.
* `unescape_decodes` — **the bodies that can be decoded**, and the error of the others.

## References

`SPEC_FULL.md`, 10.1, on escapes; the reference's `process_string_escapes`.
-/

namespace ExprLang

/-! ### Numbers in base sixteen -/

/-- The digit with the value `k`, in small or in capital letters. -/
def HexDigit (k : Nat) (d : Char) : Prop :=
  "0123456789abcdef".toList[k]? = some d ∨ "0123456789ABCDEF".toList[k]? = some d

/-- The number that digits stand for. -/
inductive HexNumber : List Char → Nat → Prop
  | none : HexNumber [] 0
  | digit {ds : List Char} {n k : Nat} {d : Char} (h : HexNumber ds n) (hd : HexDigit k d) :
    HexNumber (ds ++ [d]) (16 * n + k)

theorem HexDigit.lt {k : Nat} {d : Char} (h : HexDigit k d) : k < 16 := by
  rcases h with h | h <;> exact (List.getElem?_eq_some_iff.mp h).1

theorem hexDigit?_eq_some_iff {k : Nat} {d : Char} : hexDigit? d = some k ↔ HexDigit k d := by
  constructor
  · intro h
    have hd : Char.ofNat d.toNat = d := Char.ofNat_toNat d
    unfold hexDigit? at h
    simp only [Char.isDigit, Char.le_def, UInt32.le_iff_toNat_le, Bool.and_eq_true,
      decide_eq_true_eq, ge_iff_le] at h
    change (if 48 ≤ d.toNat ∧ d.toNat ≤ 57 then some (d.toNat - 48)
      else if 97 ≤ d.toNat ∧ d.toNat ≤ 102 then some (d.toNat - 97 + 10)
      else if 65 ≤ d.toNat ∧ d.toNat ≤ 70 then some (d.toNat - 65 + 10) else none) = some k at h
    rw [← hd]
    generalize d.toNat = m at h
    -- in each of the three ranges the digit is one of a few characters
    split at h
    · rename_i hm
      obtain ⟨hlo, hhi⟩ := hm
      interval_cases m <;> cases h <;> exact Or.inl rfl
    split at h
    · rename_i hm
      obtain ⟨hlo, hhi⟩ := hm
      interval_cases m <;> cases h <;> exact Or.inl rfl
    split at h
    · rename_i hm
      obtain ⟨hlo, hhi⟩ := hm
      interval_cases m <;> cases h <;> exact Or.inr rfl
    · cases h
  · intro h
    have hk := h.lt
    interval_cases k <;> rcases h with h | h <;> cases h <;> rfl

theorem readHex?_concat {ds : List Char} {d : Char} :
    readHex? (ds ++ [d]) =
      (if ds = [] then some 0 else readHex? ds).bind fun n => (hexDigit? d).map (16 * n + ·) := by
  cases ds with
  | nil => simp [readHex?]
  | cons c cs => simp [readHex?]

theorem HexNumber.eq_zero {n : Nat} (h : HexNumber [] n) : n = 0 := by
  generalize hds : ([] : List Char) = ds at h
  cases h with
  | none => rfl
  | digit => simp at hds

theorem HexNumber.of_concat {ds : List Char} {d : Char} {m : Nat} (h : HexNumber (ds ++ [d]) m) :
    ∃ n k, HexNumber ds n ∧ HexDigit k d ∧ m = 16 * n + k := by
  generalize hes : ds ++ [d] = es at h
  cases h with
  | none => simp at hes
  | @digit ds' n k d' h hd =>
    obtain ⟨rfl, hlast⟩ := List.append_inj' hes rfl
    cases hlast
    exact ⟨n, k, h, hd, rfl⟩

/-- Digits are read as the number they stand for, if there is one at least. -/
theorem readHex?_eq_some_iff {ds : List Char} {n : Nat} (hne : ds ≠ []) :
    readHex? ds = some n ↔ HexNumber ds n := by
  -- the last digit is the one that is read last
  induction ds using List.reverseRecOn generalizing n with
  | nil => exact absurd rfl hne
  | append_singleton ds d ih =>
    rw [readHex?_concat]
    constructor
    · intro h
      obtain ⟨m, hm, h⟩ := Option.bind_eq_some_iff.mp h
      obtain ⟨k, hk, rfl⟩ := Option.map_eq_some_iff.mp h
      refine .digit ?_ (hexDigit?_eq_some_iff.mp hk)
      by_cases hds : ds = []
      · subst hds
        cases hm
        exact .none
      · rw [if_neg hds] at hm
        exact (ih hds).mp hm
    · intro h
      obtain ⟨m, k, hm, hk, rfl⟩ := h.of_concat
      rw [hexDigit?_eq_some_iff.mpr hk]
      by_cases hds : ds = []
      · subst hds
        rw [hm.eq_zero]
        rfl
      · rw [if_neg hds, (ih hds).mpr hm]
        rfl

/-! ### Escapes -/

/-- An escape of the language and the character it names. -/
inductive Escape : List Char → Char → Prop
  | lineFeed : Escape ['\\', 'n'] '\n'
  | tab : Escape ['\\', 't'] '\t'
  | carriageReturn : Escape ['\\', 'r'] '\r'
  | backslash : Escape ['\\', '\\'] '\\'
  | singleQuote : Escape ['\\', '\''] '\''
  | doubleQuote : Escape ['\\', '"'] '"'
  | codePoint {ds : List Char} {ch : Char} (hlength : ds.length = 4) (h : HexNumber ds ch.toNat) :
    Escape ('\\' :: 'u' :: ds) ch

/-- A code point with a plus sign and three digits, which is read as well. -/
inductive SignedEscape : List Char → Char → Prop
  | codePoint {ds : List Char} {ch : Char} (hlength : ds.length = 3) (h : HexNumber ds ch.toNat) :
    SignedEscape ('\\' :: 'u' :: '+' :: ds) ch

/-- The escapes that are read. -/
def ReadEscape (e : List Char) (ch : Char) : Prop := Escape e ch ∨ SignedEscape e ch

/-- Every backslash that is not part of an escape begins one, and the text has the character that it
names in its place; all other characters stand for themselves. -/
inductive Decodes (esc : List Char → Char → Prop) : List Char → List Char → Prop
  | nil : Decodes esc [] []
  | plain {c : Char} {body s : List Char} (hc : c ≠ '\\') (h : Decodes esc body s) :
    Decodes esc (c :: body) (c :: s)
  | escape {e body s : List Char} {ch : Char} (he : esc e ch) (h : Decodes esc body s) :
    Decodes esc (e ++ body) (ch :: s)

theorem charOf?_eq_some_iff {n : Nat} {ch : Char} : charOf? n = some ch ↔ ch.toNat = n := by
  unfold charOf?
  constructor
  · intro h
    by_cases hn : n.isValidChar
    · rw [dif_pos hn] at h
      cases h
      rfl
    · rw [dif_neg hn] at h
      cases h
  · rintro rfl
    have hvalid : ch.toNat.isValidChar := ch.valid
    rw [dif_pos hvalid]
    rfl

/-- What has four characters behind the `u` is an escape exactly if they are read as a code point. -/
theorem charOfHex?_eq_some_iff {a b c d ch : Char} :
    charOfHex? [a, b, c, d] = some ch ↔ ReadEscape ['\\', 'u', a, b, c, d] ch := by
  constructor
  · intro h
    unfold charOfHex? at h
    split at h
    · rename_i ds hds
      cases hds
      obtain ⟨n, hn, hch⟩ := Option.bind_eq_some_iff.mp h
      obtain rfl := charOf?_eq_some_iff.mp hch
      exact .inr (.codePoint rfl ((readHex?_eq_some_iff (by simp)).mp hn))
    · obtain ⟨n, hn, hch⟩ := Option.bind_eq_some_iff.mp h
      obtain rfl := charOf?_eq_some_iff.mp hch
      exact .inl (.codePoint rfl ((readHex?_eq_some_iff (by simp)).mp hn))
  · rintro (h | h)
    · cases h with
      | codePoint _ h =>
        have hread := (readHex?_eq_some_iff (by simp)).mpr h
        -- a plus sign is no digit
        have ha : a ≠ '+' := by
          rintro rfl
          simp [readHex?, show hexDigit? '+' = none from rfl] at hread
        unfold charOfHex?
        split
        · rename_i heq
          cases heq
          exact absurd rfl ha
        · rw [hread]
          exact charOf?_eq_some_iff.mpr rfl
    · cases h with
      | codePoint _ h =>
        have hread := (readHex?_eq_some_iff (by simp)).mpr h
        simp only [charOfHex?, hread]
        exact charOf?_eq_some_iff.mpr rfl

theorem simpleEscape?_eq_some_iff {c ch : Char} (hc : c ≠ 'u') :
    simpleEscape? c = some ch ↔ ReadEscape ['\\', c] ch := by
  constructor
  · intro h
    left
    unfold simpleEscape? at h
    split at h <;> cases h <;> constructor
  · rintro (h | h)
    · cases h <;> first | rfl | exact absurd rfl hc
    · cases h

/-! ### Bodies -/

variable {body s : List Char}

theorem Decodes.mono {esc esc' : List Char → Char → Prop} (h : Decodes esc body s)
    (hesc : ∀ e ch, e <:+: body → esc e ch → esc' e ch) : Decodes esc' body s := by
  induction h with
  | nil => exact .nil
  | plain hc _ ih => exact .plain hc (ih fun e ch he => hesc e ch (he.trans (List.suffix_cons _ _).isInfix))
  | escape he _ ih =>
    refine .escape (hesc _ _ (List.prefix_append _ _).isInfix he) (ih fun e ch hpart => ?_)
    exact hesc e ch (hpart.trans (List.suffix_append _ _).isInfix)

theorem exists_eq_ok_of_map {α β ε : Type} {f : α → β} {x : Except ε α} {b : β}
    (h : x.map f = .ok b) : ∃ a, x = .ok a ∧ f a = b := by
  cases x with
  | error e => cases h
  | ok a => exact ⟨a, rfl, Except.ok.inj h⟩

theorem unescape_plain {c : Char} (hc : c ≠ '\\') :
    unescape (c :: body) = (unescape body).map (c :: ·) := by
  rw [unescape] <;> intros <;> contradiction

theorem unescape_escape {e : List Char} {ch : Char} (he : ReadEscape e ch) :
    unescape (e ++ body) = (unescape body).map (ch :: ·) := by
  -- behind the `u` stand four characters in both kinds of escape
  have hfour : ∀ {a b c d : Char}, ReadEscape ['\\', 'u', a, b, c, d] ch →
      unescape ('\\' :: 'u' :: a :: b :: c :: d :: body) = (unescape body).map (ch :: ·) := by
    intro a b c d h
    rw [unescape, charOfHex?_eq_some_iff.mpr h]
  have hall := he
  rcases he with he | he
  · cases he with
    | @codePoint ds _ hlength =>
      match ds, hlength with
      | [a, b, c, d], _ => exact hfour hall
    | _ => rfl
  · cases he with
    | @codePoint ds _ hlength =>
      match ds, hlength with
      | [b, c, d], _ => exact hfour hall

/-- What a body is decoded to stands in it. -/
theorem decodes_of_unescape (h : unescape body = .ok s) : Decodes ReadEscape body s := by
  fun_induction unescape body generalizing s with
  | case1 =>
    cases h
    exact .nil
  | case2 a b c d rest ch hch ih =>
    obtain ⟨t, ht, rfl⟩ := exists_eq_ok_of_map h
    exact .escape (charOfHex?_eq_some_iff.mp hch) (ih ht)
  -- the four ways in which `unescape` fails
  | case3 | case4 | case6 | case7 => cases h
  | case5 c rest _ hc ch hch ih =>
    obtain ⟨t, ht, rfl⟩ := exists_eq_ok_of_map h
    exact .escape ((simpleEscape?_eq_some_iff hc).mp hch) (ih ht)
  | case8 c rest _ _ hpair hlast ih =>
    obtain ⟨t, ht, rfl⟩ := exists_eq_ok_of_map h
    refine .plain ?_ (ih ht)
    -- the plain case is the last one tried, so a backslash would have been met before
    rintro rfl
    cases rest with
    | nil => exact hlast rfl rfl
    | cons d rest => exact hpair d rest rfl rfl

theorem unescape_of_decodes (h : Decodes ReadEscape body s) : unescape body = .ok s := by
  induction h with
  | nil => rfl
  | plain hc _ ih => rw [unescape_plain hc, ih]; rfl
  | escape he _ ih => rw [unescape_escape he, ih]; rfl

/-- A body is decoded to what its escapes and characters stand for. -/
theorem unescape_eq_ok_iff : unescape body = .ok s ↔ Decodes ReadEscape body s :=
  ⟨decodes_of_unescape, unescape_of_decodes⟩

/-- **The bodies that can be decoded.**  Where no plus sign stands behind the `u` of an escape, they
are those with escapes of the language only.  All others are errors at the place of the literal. -/
theorem unescape_decodes (body : List Char) :
    (∀ s, unescape body = .ok s ↔ Decodes ReadEscape body s) ∧
      (¬ ['\\', 'u', '+'] <:+: body → ∀ s, unescape body = .ok s ↔ Decodes Escape body s) ∧
      ((¬ ∃ s, Decodes ReadEscape body s) → ∀ start stop, ∃ sequence,
        atom? ⟨.string (String.ofList body), start, stop⟩ =
          some (.error (.invalidEscape sequence start))) := by
  refine ⟨fun s => unescape_eq_ok_iff, fun hsign s => ?_, fun hnone start stop => ?_⟩
  · rw [unescape_eq_ok_iff]
    refine ⟨fun h => h.mono fun e ch hpart he => ?_, fun h => h.mono fun e ch _ he => .inl he⟩
    rcases he with he | he
    · exact he
    · cases he with
      | @codePoint ds _ _ =>
        exact absurd ((List.prefix_append ['\\', 'u', '+'] ds).isInfix.trans hpart) hsign
  · cases hread : unescape body with
    | ok s => exact absurd ⟨s, unescape_eq_ok_iff.mp hread⟩ hnone
    | error sequence => exact ⟨String.ofList sequence, by simp [atom?, hread]⟩

/-- What stands for itself, an escape with a letter and one with a code point; and a letter that
escapes nothing. -/
theorem unescape_decodes_of_line :
    ¬ ['\\', 'u', '+'] <:+: ['ä', '\\', 'n', '\\', 'u', '0', '0', 'e', '4'] ∧
      Decodes Escape ['ä', '\\', 'n', '\\', 'u', '0', '0', 'e', '4'] ['ä', '\n', 'ä'] ∧
      (¬ ∃ s, Decodes ReadEscape ['\\', 'q'] s) ∧
      ∃ sequence, atom? ⟨.string (String.ofList ['\\', 'q']), 0, 4⟩ =
        some (.error (.invalidEscape sequence 0)) := by
  have hsign : ¬ ['\\', 'u', '+'] <:+: ['ä', '\\', 'n', '\\', 'u', '0', '0', 'e', '4'] := by
    decide +kernel
  have hread : unescape ['ä', '\\', 'n', '\\', 'u', '0', '0', 'e', '4'] = .ok ['ä', '\n', 'ä'] := by
    decide +kernel
  have hnone : ¬ ∃ s, Decodes ReadEscape ['\\', 'q'] s := by
    rintro ⟨s, hs⟩
    have herror : unescape ['\\', 'q'] = .error ['\\', 'q'] := by decide +kernel
    rw [unescape_eq_ok_iff.mpr hs] at herror
    cases herror
  refine ⟨hsign, ?_, hnone, (unescape_decodes _).2.2 hnone 0 4⟩
  exact ((unescape_decodes _).2.1 hsign _).mp hread

/-- A plus sign in the place of a digit is no escape of the language, but it is read. -/
theorem parse_signed_escape :
    parse "'\\u+041'" = .ok (.literal (.string "A")) ∧
      unescape ['\\', 'u', '+', '0', '4', '1'] = .ok ['A'] ∧
      ¬ ∃ s, Decodes Escape ['\\', 'u', '+', '0', '4', '1'] s := by
  refine ⟨by decide +kernel, by decide +kernel, ?_⟩
  rintro ⟨s, hs⟩
  generalize hbody : ['\\', 'u', '+', '0', '4', '1'] = body at hs
  -- only the `\u` form fits the body, and its four characters would have to be digits
  cases hs with
  | nil => cases hbody
  | plain hc =>
    cases hbody
    exact hc rfl
  | escape he =>
    cases he with
    | @codePoint ds _ hlength hnumber =>
      match ds, hlength with
      | [a, b, c, d], _ =>
        cases hbody
        have hread := (readHex?_eq_some_iff (by simp)).mpr hnumber
        simp [readHex?, show hexDigit? '+' = none from rfl] at hread
    | _ => cases hbody

end ExprLang
