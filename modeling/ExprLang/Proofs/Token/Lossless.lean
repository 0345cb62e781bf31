import ExprLang.Proofs.Token.Bytes

/-!
# Reading tokens loses nothing

Tokens are read from the front of a text to its end, and each takes the characters of its spelling,
behind blanks that none takes.  So the tokens stand in the text one behind the other, nothing but
blanks is between them, and together with the blanks they are the text.  Every token takes a character
at least, so that there are no more of them than characters, and reading ends.

## Main definitions

* `Cursor.Steps`, `Cursor.Taken` — what one step can do, and what a lexeme takes.
* `Cursor.Reads` — lexemes that are read one after the other.
* `gaps`, `woven` — the text before lexemes, and lexemes put together with it.
* `Lossless` — what is known of lexemes that were read from a text, and of the place after them.

## Main results

* `Cursor.next_steps` — what one step does.
* `lossless_of_reads`, `lexemesOf_lossless` — **reading tokens loses nothing**, and it ends.

## References

The reference's `next_token` and its test `test_spans`.
-/

namespace ExprLang

/-! ### One step -/

namespace Cursor

/-- A lexeme is read: blanks are skipped, and a spelling of its token is taken. -/
structure Taken (c : Cursor) (l : Lexeme) (after : Cursor) (gap piece : List Char) : Prop where
  rest : c.rest = gap ++ (piece ++ after.rest)
  blank : gap.all isBlank
  nonempty : piece ≠ []
  spells : l.token.Spells piece
  start : l.start = c.offset + byteLength gap
  stop : l.stop = l.start + byteLength piece
  offset : after.offset = l.stop

/-- What a step can do. -/
inductive Steps (c : Cursor) : Step → Prop
  | finished {after : Cursor} (blank : c.rest.all isBlank)
      (offset : after.offset = c.offset + byteLength c.rest) : Steps c (.finished after)
  | lexeme {l : Lexeme} {after : Cursor} {gap piece : List Char} (h : Taken c l after gap piece) :
      Steps c (.lexeme l after)
  | failed (e : ParseError) (n : Nat) : Steps c (.failed e (c.skipBlanks.advance n))

theorem next_steps (c : Cursor) : c.Steps c.next := by
  have hcut : c.rest.takeWhile isBlank ++ c.skipBlanks.rest = c.rest :=
    List.takeWhile_append_dropWhile
  cases hrest : c.skipBlanks.rest with
  | nil =>
    have hall : c.rest.takeWhile isBlank = c.rest := by
      rwa [hrest, List.append_nil] at hcut
    rw [next_of_end hrest]
    refine .finished ?_ ?_
    · rw [← hall]
      exact List.all_takeWhile
    · rw [skipBlanks, hall]
  | cons ch rest =>
    rcases hscan : scanToken c.skipBlanks.offset ch rest with ⟨e | t, n⟩
    · rw [next_of_error hrest hscan]
      exact .failed e n
    · rw [next_of_token hrest hscan]
      obtain ⟨piece, tail, hpiece, rfl, hspells⟩ := scanToken_takes hscan
      rw [hpiece] at hrest
      have hafter : (c.skipBlanks.advance piece.length).rest = tail := by
        rw [advance, hrest, List.drop_left]
      -- the characters passed over are the blanks, and those of the token behind them
      have htaken : Taken c ⟨t, _, _⟩ (c.skipBlanks.advance piece.length)
          (c.rest.takeWhile isBlank) piece :=
        { rest := by rw [hafter, ← hrest, hcut]
          blank := List.all_takeWhile
          nonempty := List.ne_nil_of_length_pos (scanToken_pos hscan)
          spells := hspells
          start := rfl
          stop := offset_advance hrest
          offset := rfl }
      exact .lexeme htaken

variable {c after c' : Cursor} {l : Lexeme} {ls : List Lexeme} {text : String}

theorem exists_taken (h : c.next = .lexeme l after) : ∃ gap piece, Taken c l after gap piece := by
  have hsteps := c.next_steps
  rw [h] at hsteps
  cases hsteps with
  | lexeme htaken => exact ⟨_, _, htaken⟩

/-- The end of the text is found behind blanks. -/
theorem In.of_finished (hc : c.In text) (h : c.next = .finished after) :
    c.rest.all isBlank ∧ after.offset = text.utf8ByteSize := by
  have hsteps := c.next_steps
  rw [h] at hsteps
  cases hsteps with
  | finished hblank hoffset => exact ⟨hblank, hoffset.trans hc.offset_add⟩

/-- After an error the cursor is still at a place of the text. -/
theorem In.of_failed (hc : c.In text) {e : ParseError} (h : c.next = .failed e after) :
    after.In text := by
  have hsteps := c.next_steps
  rw [h] at hsteps
  cases hsteps with
  | failed e n => exact hc.skipBlanks.advance n

namespace Taken

variable {gap piece : List Char}

theorem slice_gap (h : Taken c l after gap piece) (hc : c.In text) :
    slice text c.offset l.start = String.ofList gap := by
  rw [h.start]
  exact hc.slice_piece h.rest

theorem in_start (h : Taken c l after gap piece) (hc : c.In text) :
    In ⟨piece ++ after.rest, l.start⟩ text := by
  rw [h.start]
  exact hc.behind h.rest

theorem slice_piece (h : Taken c l after gap piece) (hc : c.In text) :
    slice text l.start l.stop = String.ofList piece := by
  rw [h.stop]
  exact (h.in_start hc).slice_piece rfl

theorem in_after (h : Taken c l after gap piece) (hc : c.In text) : after.In text := by
  have hbehind : In ⟨after.rest, l.start + byteLength piece⟩ text := (h.in_start hc).behind rfl
  rwa [← h.stop, ← h.offset] at hbehind

theorem start_lt_stop (h : Taken c l after gap piece) : l.start < l.stop := by
  have hpos := byteLength_pos h.nonempty
  rw [h.stop]
  omega

theorem offset_le_start (h : Taken c l after gap piece) : c.offset ≤ l.start := by
  rw [h.start]
  omega

theorem length_rest_lt (h : Taken c l after gap piece) : after.rest.length < c.rest.length := by
  have hpos := List.length_pos_of_ne_nil h.nonempty
  simp only [h.rest, List.length_append]
  omega

end Taken

/-! ### Many steps -/

/-- The lexemes are read one after the other, up to a cursor. -/
inductive Reads : Cursor → List Lexeme → Cursor → Prop
  | none (c : Cursor) : Reads c [] c
  | next {c after c' : Cursor} {l : Lexeme} {ls : List Lexeme} (h : c.next = .lexeme l after)
      (hs : Reads after ls c') : Reads c (l :: ls) c'

end Cursor

/-- What stands before each of some lexemes, the first of them read from byte `i` on. -/
def gaps (text : String) : Nat → List Lexeme → List String
  | _, [] => []
  | i, l :: ls => slice text i l.start :: gaps text l.stop ls

/-- The text of lexemes, each behind what stands before it. -/
def woven (text : String) : Nat → List Lexeme → String
  | _, [] => ""
  | i, l :: ls => slice text i l.start ++ slice text l.start l.stop ++ woven text l.stop ls

/-- The byte after some lexemes. -/
def lastStop : Nat → List Lexeme → Nat
  | i, [] => i
  | _, l :: ls => lastStop l.stop ls

namespace Cursor

variable {c after c' : Cursor} {l : Lexeme} {ls : List Lexeme} {text : String}

namespace Reads

theorem in_end (h : c.Reads ls c') (hc : c.In text) : c'.In text := by
  induction h with
  | none => exact hc
  | next hnext _ ih =>
    obtain ⟨gap, piece, htaken⟩ := exists_taken hnext
    exact ih (htaken.in_after hc)

/-- Each lexeme was taken at a place of the text. -/
theorem exists_taken_of_mem (h : c.Reads ls c') (hc : c.In text) (hl : l ∈ ls) :
    ∃ d after gap piece, d.In text ∧ c.offset ≤ d.offset ∧ Taken d l after gap piece := by
  induction h with
  | none => cases hl
  | next hnext _ ih =>
    obtain ⟨gap, piece, htaken⟩ := exists_taken hnext
    rcases List.mem_cons.mp hl with rfl | hl
    · exact ⟨_, _, gap, piece, hc, Nat.le_refl _, htaken⟩
    · obtain ⟨d, after, gap', piece', hd, hle, htaken'⟩ := ih (htaken.in_after hc) hl
      have hstart := htaken.offset_le_start
      have hstop := htaken.start_lt_stop
      have hoffset := htaken.offset
      exact ⟨d, after, gap', piece', hd, by omega, htaken'⟩

theorem ordered (h : c.Reads ls c') (hc : c.In text) :
    ls.Pairwise fun l m => l.stop ≤ m.start := by
  induction h with
  | none => exact List.Pairwise.nil
  | next hnext hs ih =>
    obtain ⟨gap, piece, htaken⟩ := exists_taken hnext
    have hafter := htaken.in_after hc
    refine List.Pairwise.cons (fun m hm => ?_) (ih hafter)
    obtain ⟨d, after, gap', piece', -, hle, htaken'⟩ := hs.exists_taken_of_mem hafter hm
    have hoffset := htaken.offset
    have hstart := htaken'.offset_le_start
    omega

theorem isBlankText_of_mem_gaps (h : c.Reads ls c') (hc : c.In text) {gap : String}
    (hgap : gap ∈ gaps text c.offset ls) : isBlankText gap := by
  induction h with
  | none => cases hgap
  | next hnext _ ih =>
    obtain ⟨blanks, piece, htaken⟩ := exists_taken hnext
    rcases List.mem_cons.mp hgap with rfl | hgap
    · rw [htaken.slice_gap hc, isBlankText, String.toList_ofList]
      exact htaken.blank
    · rw [← htaken.offset] at hgap
      exact ih (htaken.in_after hc) hgap

theorem offset_eq_lastStop (h : c.Reads ls c') : c'.offset = lastStop c.offset ls := by
  induction h with
  | none => rfl
  | next hnext _ ih =>
    obtain ⟨gap, piece, htaken⟩ := exists_taken hnext
    rw [ih, htaken.offset]
    rfl

/-- What was read is what the lexemes and the gaps between them make up. -/
theorem exists_passed (h : c.Reads ls c') (hc : c.In text) :
    ∃ passed, c.rest = passed ++ c'.rest ∧ c'.offset = c.offset + byteLength passed ∧
      woven text c.offset ls = String.ofList passed := by
  induction h with
  | none => exact ⟨[], rfl, rfl, rfl⟩
  | next hnext _ ih =>
    obtain ⟨gap, piece, htaken⟩ := exists_taken hnext
    obtain ⟨passed, hrest, hoffset, hwoven⟩ := ih (htaken.in_after hc)
    refine ⟨gap ++ (piece ++ passed), ?_, ?_, ?_⟩
    · rw [htaken.rest, hrest, List.append_assoc, List.append_assoc]
    · rw [hoffset, htaken.offset, htaken.stop, htaken.start]
      simp only [byteLength_append, Nat.add_assoc]
    · rw [htaken.offset] at hwoven
      rw [woven, htaken.slice_gap hc, htaken.slice_piece hc, hwoven, String.ofList_append,
        String.ofList_append, String.append_assoc]

/-- Every lexeme takes a character at least. -/
theorem length_add_length_le (h : c.Reads ls c') : ls.length + c'.rest.length ≤ c.rest.length := by
  induction h with
  | none => exact Nat.le_of_eq (Nat.zero_add _)
  | next hnext _ ih =>
    obtain ⟨gap, piece, htaken⟩ := exists_taken hnext
    have hlt := htaken.length_rest_lt
    rw [List.length_cons]
    omega

end Reads

/-- All lexemes can be read one after the other, and then there is the failure or the end. -/
theorem exists_reads_lexemes (c : Cursor) : ∃ c', c.Reads c.lexemes.lexemes c' ∧
    c'.next.outcome = (c.lexemes.failure.elim (.ok none) .error, c.lexemes.stop) := by
  fun_induction Cursor.lexemes c with
  | case1 c after h =>
    refine ⟨c, .none c, ?_⟩
    rw [h]
    rfl
  | case2 c e after h =>
    refine ⟨c, .none c, ?_⟩
    rw [h]
    rfl
  | case3 c l after h r ih =>
    obtain ⟨c', hreads, hend⟩ := ih
    exact ⟨c', .next h hreads, hend⟩

end Cursor

/-! ### Texts -/

/-- What is known of lexemes that were read from the front of a text up to a cursor. -/
structure Lossless (text : String) (ls : List Lexeme) (c : Cursor) : Prop where
  /-- Every lexeme has bytes, and stands between characters. -/
  spans : ∀ l ∈ ls, l.start < l.stop ∧ l.stop ≤ text.utf8ByteSize ∧
    IsBoundary text l.start ∧ IsBoundary text l.stop
  /-- Lexemes stand in the order in which they were read, and no two have a byte in common. -/
  ordered : ls.Pairwise fun l m => l.stop ≤ m.start
  blank : ∀ gap ∈ gaps text 0 ls, isBlankText gap
  /-- Names, numbers and strings are the text that they stand in, without markers and quotes. -/
  spelled : ∀ l ∈ ls, l.token.Spells (slice text l.start l.stop).toList
  stops : c.offset = lastStop 0 ls
  /-- With what stands before them, lexemes are the text so far. -/
  reproduced : woven text 0 ls = slice text 0 c.offset
  /-- There are no more lexemes than characters. -/
  length_le : ls.length ≤ text.length
  /-- Going on by bytes, no slice starts or ends inside a character. -/
  answers : ByteReader.next? text c.offset = some c.next.outcome
  /-- At the end of the text nothing but blanks is behind the lexemes, and nothing is lost. -/
  finished : ∀ after, c.next = .finished after → after.offset = text.utf8ByteSize ∧
    isBlankText (slice text c.offset text.utf8ByteSize) ∧
    woven text 0 ls ++ slice text c.offset text.utf8ByteSize = text
  /-- An error is told between characters. -/
  failed : ∀ e after, c.next = .failed e after →
    IsBoundary text after.offset ∧ after.offset ≤ text.utf8ByteSize

theorem lossless_of_reads {text : String} {ls : List Lexeme} {c : Cursor}
    (h : (Cursor.start text).Reads ls c) : Lossless text ls c := by
  have hstart := Cursor.in_start text
  have hc := h.in_end hstart
  have hlength := h.length_add_length_le
  -- the characters that were passed are those of the gaps and of the tokens in turn
  obtain ⟨passed, hrest, hoffset, hwoven⟩ := h.exists_passed hstart
  refine
    { spans := fun l hl => ?_
      ordered := h.ordered hstart
      blank := fun gap hgap => h.isBlankText_of_mem_gaps hstart hgap
      spelled := fun l hl => ?_
      stops := h.offset_eq_lastStop
      reproduced := ?_
      length_le := ?_
      answers := hc.next?_eq
      finished := fun after hafter => ?_
      failed := fun e after hafter => ?_ }
  · obtain ⟨d, after, gap, piece, hd, -, htaken⟩ := h.exists_taken_of_mem hstart hl
    have hstop := (htaken.in_after hd).isBoundary
    rw [htaken.offset] at hstop
    exact ⟨htaken.start_lt_stop, hstop.le, (htaken.in_start hd).isBoundary, hstop⟩
  · obtain ⟨d, after, gap, piece, hd, -, htaken⟩ := h.exists_taken_of_mem hstart hl
    rw [htaken.slice_piece hd, String.toList_ofList]
    exact htaken.spells
  · rw [hoffset]
    exact hwoven.trans (hstart.slice_piece hrest).symm
  · have htext : (Cursor.start text).rest.length = text.length := String.length_toList
    omega
  · obtain ⟨hblank, hstop⟩ := hc.of_finished hafter
    have htail := hc.slice_rest
    refine ⟨hstop, ?_, ?_⟩
    · rw [htail, isBlankText, String.toList_ofList]
      exact hblank
    · have hall : woven text 0 ls = String.ofList passed := hwoven
      have htext : (Cursor.start text).rest = text.toList := rfl
      rw [hall, htail, ← String.ofList_append, ← hrest, htext, String.ofList_toList]
  · have hplace := (hc.of_failed hafter).isBoundary
    exact ⟨hplace, hplace.le⟩

/-- **Reading tokens loses nothing.**  That holds after any number of tokens, and reading them one
after the other ends, with the text or with an error. -/
theorem lexemesOf_lossless (text : String) :
    (∀ ls c, (Cursor.start text).Reads ls c → Lossless text ls c) ∧
      ∃ c, (Cursor.start text).Reads (lexemesOf text).lexemes c ∧
        c.next.outcome =
          ((lexemesOf text).failure.elim (.ok none) .error, (lexemesOf text).stop) :=
  ⟨fun _ _ h => lossless_of_reads h, (Cursor.start text).exists_reads_lexemes⟩

/-- Blanks and characters of several bytes stand in between and inside. -/
theorem lossless_of_umlauts :
    ∃ c, (Cursor.start " ä?.#ü\n+ 'ö'").Reads
        [⟨.identifier "ä", 1, 3⟩, ⟨.safeDot, 3, 5⟩, ⟨.binding "ü", 5, 8⟩, ⟨.operator .add, 9, 10⟩,
          ⟨.string "ö", 11, 15⟩] c ∧
      Lossless " ä?.#ü\n+ 'ö'"
        [⟨.identifier "ä", 1, 3⟩, ⟨.safeDot, 3, 5⟩, ⟨.binding "ü", 5, 8⟩, ⟨.operator .add, 9, 10⟩,
          ⟨.string "ö", 11, 15⟩] c := by
  have hlexemes : (lexemesOf " ä?.#ü\n+ 'ö'").lexemes =
      [⟨.identifier "ä", 1, 3⟩, ⟨.safeDot, 3, 5⟩, ⟨.binding "ü", 5, 8⟩, ⟨.operator .add, 9, 10⟩,
        ⟨.string "ö", 11, 15⟩] := by decide +kernel
  obtain ⟨hlossless, c, hreads, -⟩ := lexemesOf_lossless " ä?.#ü\n+ 'ö'"
  rw [hlexemes] at hreads
  exact ⟨c, hreads, hlossless _ _ hreads⟩

end ExprLang
