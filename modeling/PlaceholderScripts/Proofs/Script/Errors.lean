import PlaceholderScripts.Pool
import PlaceholderScripts.Proofs.Script.Effects

/-!
# Errors that escape from scripts

Whatever a script does, an index outside of a list with which it ends is outside of a list of the length that
the error names. A single operation fails in no other way. A run passes on the errors of its parts, inside of
calls perhaps, and every other error that it raises is of another kind.
-/

namespace PlaceholderScripts.Script

theorem execute_ensures (code : String) (modules : List Module) (rounds : Nat) (scope : List Variable) :
    (execute code modules rounds scope).Ensures fun result =>
      ∀ e, result = .error (.script e) → e.fault.Sound := by
  unfold execute
  split
  · next cause hparse =>
    intro e he
    obtain rfl := RunError.script.inj (Except.error.inj he)
    exact trivial
  · next script hparse =>
    have hcalls : Evaluate.CallsMeet (Evaluate.callAt callDepth) (.asking fun _ => True) :=
      Evaluate.callsMeet_callAt (fun _ => trivial) callDepth
    have hbody := Evaluate.meets_evalBody { units := [⟨none, script.functions⟩], modules, rounds } hcalls script.body
      fun _ _ => trivial
    refine Dialogue.Ensures.bind (Dialogue.Ensures.bind (hbody { scope }).ensures ?_) fun p hp => hp
    rintro ⟨result, state⟩ ⟨hresult, -⟩ e he
    cases result with
    | ok v => exact nomatch he
    | error signal =>
      cases signal with
      | error e' =>
        obtain rfl := RunError.script.inj (Except.error.inj he)
        exact hresult
      | _ => exact nomatch he

end PlaceholderScripts.Script
