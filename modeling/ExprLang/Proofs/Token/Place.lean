import ExprLang.Token.Bytes
import Mathlib.Data.String.Basic

/-!
# Places in a text

Tokens say where they stand by bytes, and reading goes by characters.  A cursor is at a place of a text
if the characters that it has passed take as many bytes as it has counted, and those that are left are
the rest of the text.  Then it stands between two characters, and what it sees is what the text has
from that byte on.

## Main definitions

* `Cursor.In c text` — the cursor is at a place of the text.

## Main results

* `Cursor.In.isBoundary`, `Cursor.In.slice_piece` — where a cursor is, and what it sees.
-/

namespace ExprLang

/-! ### Bytes -/

theorem byteLength_eq_utf8Len (cs : List Char) : byteLength cs = String.utf8Len cs := by
  induction cs with
  | nil => rfl
  | cons c cs ih => rw [byteLength_cons, String.utf8Len_cons, ih, Nat.add_comm]

@[simp] theorem byteLength_toList (text : String) : byteLength text.toList = text.utf8ByteSize := by
  rw [byteLength_eq_utf8Len, String.utf8Len_toList]

theorem byteLength_pos {cs : List Char} (h : cs ≠ []) : 0 < byteLength cs := by
  cases cs with
  | nil => exact absurd rfl h
  | cons c cs =>
    have hc := c.utf8Size_pos
    rw [byteLength_cons]
    omega

theorem IsBoundary.le {text : String} {i : Nat} (h : IsBoundary text i) : i ≤ text.utf8ByteSize :=
  h.le_rawEndPos

section

variable {text : String} {before piece after : List Char}

theorem isBoundary_of_append (h : text.toList = before ++ after) :
    IsBoundary text (byteLength before) := by
  refine String.Pos.Raw.isValid_iff_exists_append.mpr
    ⟨String.ofList before, String.ofList after, ?_, ?_⟩
  · rw [← String.ofList_append, ← h, String.ofList_toList]
  · rw [byteLength_eq_utf8Len, String.rawEndPos_ofList]

theorem slice_of_append (h : text.toList = before ++ (piece ++ after)) :
    slice text (byteLength before) (byteLength before + byteLength piece) = String.ofList piece := by
  rw [slice, byteLength_eq_utf8Len, byteLength_eq_utf8Len, ← text.ofList_toList, h,
    ← List.append_assoc]
  exact String.extract_of_valid before piece after

end

/-! ### Cursors -/

namespace Cursor

variable {c : Cursor} {text : String}

/-- The cursor is at a place of the text. -/
def In (c : Cursor) (text : String) : Prop :=
  ∃ before, text.toList = before ++ c.rest ∧ c.offset = byteLength before

theorem in_start (text : String) : (start text).In text := ⟨[], rfl, rfl⟩

/-- Behind a piece of what is to be read. -/
theorem In.behind (h : c.In text) {piece rest : List Char} (hrest : c.rest = piece ++ rest) :
    In ⟨rest, c.offset + byteLength piece⟩ text := by
  obtain ⟨before, htext, hoffset⟩ := h
  refine ⟨before ++ piece, ?_, ?_⟩
  · rw [htext, hrest, List.append_assoc]
  · rw [byteLength_append, hoffset]

theorem In.behind_cons (h : c.In text) {ch : Char} {rest : List Char} (hrest : c.rest = ch :: rest) :
    In ⟨rest, c.offset + ch.utf8Size⟩ text :=
  h.behind (show c.rest = [ch] ++ rest from hrest)

theorem In.advance (h : c.In text) (n : Nat) : (c.advance n).In text :=
  h.behind (List.take_append_drop n c.rest).symm

theorem In.skipBlanks (h : c.In text) : c.skipBlanks.In text :=
  h.behind List.takeWhile_append_dropWhile.symm

theorem In.isBoundary (h : c.In text) : IsBoundary text c.offset := by
  obtain ⟨before, htext, hoffset⟩ := h
  rw [hoffset]
  exact isBoundary_of_append htext

theorem In.slice_piece (h : c.In text) {piece rest : List Char} (hrest : c.rest = piece ++ rest) :
    slice text c.offset (c.offset + byteLength piece) = String.ofList piece := by
  obtain ⟨before, htext, hoffset⟩ := h
  rw [hoffset]
  exact slice_of_append (hrest ▸ htext)

theorem In.offset_add (h : c.In text) : c.offset + byteLength c.rest = text.utf8ByteSize := by
  obtain ⟨before, htext, hoffset⟩ := h
  rw [hoffset, ← byteLength_append, ← htext, byteLength_toList]

/-- What is to be read is the text from the cursor on. -/
theorem In.slice_rest (h : c.In text) :
    slice text c.offset text.utf8ByteSize = String.ofList c.rest := by
  rw [← h.offset_add]
  exact h.slice_piece (List.append_nil c.rest).symm

end Cursor

end ExprLang
