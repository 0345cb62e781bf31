import ExprLang.Text.CharSet

/-!
# Encoded characters

UTF-8 writes a character as one to four bytes.  A range of characters, cut in the right places, is a
sequence of ranges of bytes: each byte takes every value of its range whatever the others are.

## Main definitions

* `utf8Bytes` — the bytes of a character.
* `cut?` — where a range of characters has to be cut.
* `CharSet.encodings` — a set of characters as sequences of ranges of bytes.
-/

namespace ExprLang

/-- The bytes that the character with a code point is written as. -/
def utf8Bytes (n : Nat) : List Nat :=
  if n < 0x80 then [n]
  else if n < 0x800 then [0xC0 + n / 0x40, 0x80 + n % 0x40]
  else if n < 0x10000 then [0xE0 + n / 0x1000, 0x80 + n / 0x40 % 0x40, 0x80 + n % 0x40]
  else [0xF0 + n / 0x40000, 0x80 + n / 0x1000 % 0x40, 0x80 + n / 0x40 % 0x40, 0x80 + n % 0x40]

/-- Ranges of bytes, one for each byte of a character. -/
abbrev ByteRanges := List (Nat × Nat)

/-- Where a range of code points has to be cut to become sequences of ranges of bytes: the first code
point of the second part.  Within a part all characters take the same number of bytes, and a byte
that differs is followed by bytes that take all their values. -/
def cut? (lo hi : Nat) : Option Nat :=
  match [0x80, 0x800, 0x10000].find? fun n => lo < n && n ≤ hi with
  | some n => some n
  | none =>
    if hi < 0x80 then none
    else [0x40, 0x1000, 0x40000].findSome? fun block =>
      if lo / block == hi / block then none
      else if lo % block != 0 then some ((lo / block + 1) * block)
      else if (hi + 1) % block != 0 then some (hi / block * block)
      else none

/-- A range of code points as sequences of ranges of bytes, in ascending order.  Nine cuts on the way
to one of them are the most there can be: three for the number of bytes, and two for each byte that is
followed by others. -/
def encodeRange : (cuts : Nat) → (lo hi : Nat) → List ByteRanges
  | 0, lo, hi => [(utf8Bytes lo).zip (utf8Bytes hi)]
  | cuts + 1, lo, hi =>
    match cut? lo hi with
    | none => [(utf8Bytes lo).zip (utf8Bytes hi)]
    | some n => encodeRange cuts lo (n - 1) ++ encodeRange cuts n hi

namespace CharSet

/-- The set without the surrogates, which are no characters. -/
def withoutSurrogates (s : CharSet) : CharSet :=
  s.flatMap fun r =>
    (if r.1 < 0xD800 then [(r.1, min r.2 0xD7FF)] else []) ++
      (if 0xDFFF < r.2 then [(max r.1 0xE000, r.2)] else [])

/-- A set of characters as sequences of ranges of bytes, in ascending order. -/
def encodings (s : CharSet) : List ByteRanges :=
  s.withoutSurrogates.flatMap fun r => encodeRange 9 r.1 r.2

end CharSet
end ExprLang
