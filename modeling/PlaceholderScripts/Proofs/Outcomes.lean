/-!
# Outcomes that are only computed

An outcome may be too large to be written out or compared, and then it can be computed still whether it is
an error, and whether its value passes a check.
-/

namespace PlaceholderScripts

variable {ε α : Type} {outcome : Except ε α}

theorem exists_eq_error_of_isNone (h : outcome.toOption.isNone = true) : ∃ e, outcome = .error e := by
  cases outcome with
  | error e => exact ⟨e, rfl⟩
  | ok a => cases h

theorem exists_eq_ok_of_any {check : α → Bool} (h : outcome.toOption.any check = true) :
    ∃ a, outcome = .ok a ∧ check a = true := by
  cases outcome with
  | error e => cases h
  | ok a => exact ⟨a, rfl, h⟩

theorem eq_ok_getD_of_isSome (h : outcome.toOption.isSome = true) (otherwise : α) :
    outcome = .ok (outcome.toOption.getD otherwise) := by
  cases outcome with
  | error e => cases h
  | ok a => rfl

end PlaceholderScripts
