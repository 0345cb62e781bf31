import ExprLang.Token.Scan

/-!
# Errors of tokens

Reading tokens fails where a character begins none, where a number has no room in its type and where a
string does not end.  The grammar and the escapes of a string play no part in it.

## Main definitions

* `ParseError.IsLexical` — the error is one of those.

## Main results

* `isLexical_of_failure` — the error that ends the tokens of a text is one of those.
-/

namespace ExprLang

/-- The error is found while tokens are read. -/
def ParseError.IsLexical : ParseError → Prop
  | unexpectedCharacter _ _ | invalidNumber _ _ | unterminatedString _ => True
  | _ => False

theorem isLexical_of_scanNumber {start n : Nat} {cs : List Char} {e : ParseError}
    (h : scanNumber start cs = (.error e, n)) : e.IsLexical := by
  unfold scanNumber at h
  simp only at h
  repeat' split at h
  all_goals cases h
  all_goals trivial

theorem isLexical_of_scanToken {start n : Nat} {c : Char} {rest : List Char} {e : ParseError}
    (h : scanToken start c rest = (.error e, n)) : e.IsLexical := by
  unfold scanToken at h
  split at h
  · exact isLexical_of_scanNumber h
  · unfold scanString scanMarked scanSymbol at h
    repeat' split at h
    all_goals cases h
    all_goals trivial

theorem isLexical_of_next {c after : Cursor} {e : ParseError} (h : c.next = .failed e after) :
    e.IsLexical := by
  unfold Cursor.next at h
  simp only at h
  repeat' split at h
  all_goals cases h
  next hscan => exact isLexical_of_scanToken hscan

theorem isLexical_of_failure {c : Cursor} {e : ParseError} (h : c.lexemes.failure = some e) :
    e.IsLexical := by
  fun_induction Cursor.lexemes c with
  | case1 => cases h
  | case2 c e' after hnext =>
    cases h
    exact isLexical_of_next hnext
  | case3 c l after _ _ ih => exact ih h

end ExprLang
