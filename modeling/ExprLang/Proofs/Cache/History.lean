import ExprLang.Proofs.Cache.Step
import Mathlib.Data.List.Induction

/-!
# What is seen of a cache

A history is what somebody could write down who sees the actions on a cache and their answers, but
not the cache itself: which instances were handed out for which texts since everything was cleared,
and how often a text came among the retained ones when there was no more room.

## Main definitions

* `Cache.History`, `Cache.History.record` — the history, and what an action and its answer add to it.
* `Cache.History.recency` — the texts that were asked for with success, the latest first.
* `Cache.historyOf` — the history of a run.

## Main results

* `Cache.run_induction` — what every step preserves holds after every run.
-/

namespace ExprLang
namespace Cache

/-- What was seen of a cache. -/
structure History where
  /-- The instances handed out since all entries were taken out, each with the text it was handed out
  for, the latest first. -/
  obtained : List (String × Instance)
  /-- How often another text had to go for one. -/
  displaced : Nat

namespace History

/-- Nothing was seen yet. -/
def empty : History := ⟨[], 0⟩

/-- The texts for which an instance was handed out, each once, the latest first. -/
def recency (h : History) : List String :=
  h.obtained.foldr (fun p names => Recent.moveToFront names p.1) []

/-- An instance is handed out for a text.  Another text goes if this one is not among the latest, and
there are as many of them as there may be. -/
def handOut (limit : Option Nat) (h : History) (text : String) (i : Instance) : History where
  obtained := (text, i) :: h.obtained
  displaced := h.displaced + if Recent.Displaces limit (Recent.kept limit h.recency) text then 1 else 0

/-- What an action and its answer add to a history. -/
def record (limit : Option Nat) (h : History) : Action → Reply → History
  | .compile text _, .found i _ | .get text _, .found i _ => h.handOut limit text i
  | .clear, _ => { h with obtained := [] }
  | _, _ => h

theorem nodup_recency (h : History) : h.recency.Nodup := by
  unfold recency
  induction h.obtained with
  | nil => exact List.nodup_nil
  | cons p obtained ih => exact Recent.nodup_moveToFront ih p.1

theorem recency_handOut {limit : Option Nat} (h : History) (text : String) (i : Instance) :
    (h.handOut limit text i).recency = Recent.moveToFront h.recency text := rfl

/-- Only when all entries are taken out is anything forgotten. -/
theorem obtained_subset_record (limit : Option Nat) (h : History) {a : Action} (ha : a ≠ .clear)
    (r : Reply) : h.obtained ⊆ (h.record limit a r).obtained := by
  unfold record
  split
  · exact List.subset_cons_self _ _
  · exact List.subset_cons_self _ _
  · exact absurd rfl ha
  · exact List.Subset.refl _

end History

/-- The history of a run that goes on from a state and a history. -/
def historyFrom (c : Cache) (h : History) : List Action → History
  | [] => h
  | a :: actions =>
    historyFrom (c.perform a).2 (h.record c.config.limit a (c.perform a).1) actions

/-- The history of a run of a new cache. -/
def historyOf (config : CacheConfig) (actions : List Action) : History :=
  historyFrom (start config) .empty actions

/-! ### Runs -/

theorem run_append (c : Cache) (actions later : List Action) :
    c.run (actions ++ later) = (c.run actions).run later :=
  List.foldl_append

theorem historyFrom_append (c : Cache) (h : History) (actions later : List Action) :
    c.historyFrom h (actions ++ later) =
      (c.run actions).historyFrom (c.historyFrom h actions) later := by
  induction actions generalizing c h with
  | nil => rfl
  | cons a actions ih => exact ih _ _

theorem historyFrom_concat (c : Cache) (h : History) (actions : List Action) (a : Action) :
    c.historyFrom h (actions ++ [a]) =
      (c.historyFrom h actions).record (c.run actions).config.limit a
        ((c.run actions).perform a).1 :=
  historyFrom_append c h actions [a]

theorem obtained_subset_historyFrom (c : Cache) (h : History) {later : List Action}
    (hlater : .clear ∉ later) : h.obtained ⊆ (c.historyFrom h later).obtained := by
  induction later generalizing c h with
  | nil => exact List.Subset.refl _
  | cons a later ih =>
    rw [List.mem_cons, not_or] at hlater
    have hrecord := h.obtained_subset_record c.config.limit (Ne.symm hlater.1) (c.perform a).1
    exact List.Subset.trans hrecord (ih _ _ hlater.2)

theorem config_run (c : Cache) (actions : List Action) : (c.run actions).config = c.config := by
  induction actions generalizing c with
  | nil => rfl
  | cons a actions ih =>
    show ((c.perform a).2.run actions).config = c.config
    rw [ih, (perform_step c a).config_eq]

/-- What holds of a new cache, and is preserved by every step, holds after every run. -/
theorem run_induction {config : CacheConfig} {P : List Action → Cache → History → Prop}
    (hnew : P [] (start config) .empty)
    (hstep : ∀ {actions c h a r c'}, c.config = config → Step c a r c' → P actions c h →
      P (actions ++ [a]) c' (h.record config.limit a r))
    (actions : List Action) : P actions ((start config).run actions) (historyOf config actions) := by
  induction actions using List.reverseRecOn with
  | nil => exact hnew
  | append_singleton actions a ih =>
    have hconfig : ((start config).run actions).config = config := config_run _ actions
    have h := hstep hconfig (perform_step ((start config).run actions) a) ih
    rw [run_append, historyOf, historyFrom_concat, hconfig]
    exact h

end Cache
end ExprLang
