import Mathlib.Data.List.Induction

/-!
# Histories

A history is the list of what happened, the last event at its end. Whether something is so now can often be told
from the last event of a kind and from what did not happen since.
-/

namespace PlaceholderScripts

variable {α : Type} {p : List α → α → Prop} {q : α → Prop}

/-- Something happened of which `p` holds, given the history before it, and `q` holds of all that happened
since. -/
def Since (p : List α → α → Prop) (q : α → Prop) (history : List α) : Prop :=
  ∃ before event after, history = before ++ event :: after ∧ p before event ∧ ∀ e ∈ after, q e

@[simp] theorem not_since_nil : ¬ Since p q [] := by
  rintro ⟨before, event, after, h, -, -⟩
  simp at h

theorem since_concat {history : List α} {last : α} :
    Since p q (history ++ [last]) ↔ p history last ∨ Since p q history ∧ q last := by
  constructor
  · rintro ⟨before, event, after, h, hevent, hafter⟩
    rcases List.eq_nil_or_concat after with rfl | ⟨rest, e, rfl⟩
    · obtain ⟨rfl, hlast⟩ := List.append_inj' h rfl
      obtain rfl := List.singleton_inj.mp hlast
      exact .inl hevent
    · rw [List.concat_eq_append, ← List.cons_append, ← List.append_assoc] at h
      obtain ⟨rfl, hlast⟩ := List.append_inj' h rfl
      obtain rfl := List.singleton_inj.mp hlast
      refine .inr ⟨⟨before, event, rest, rfl, hevent, fun e' he' => ?_⟩, ?_⟩
      · exact hafter e' (by simp [he'])
      · exact hafter last (by simp)
  · rintro (hlast | ⟨⟨before, event, after, rfl, hevent, hafter⟩, hlast⟩)
    · exact ⟨history, last, [], rfl, hlast, fun e he => absurd he List.not_mem_nil⟩
    · refine ⟨before, event, after ++ [last], by simp, hevent, fun e he => ?_⟩
      rcases List.mem_append.mp he with he | he
      · exact hafter e he
      · rw [List.mem_singleton.mp he]
        exact hlast

end PlaceholderScripts
