import PlaceholderScripts.Proofs.Evaluation.Preparation
import PlaceholderScripts.Proofs.Script.Errors

/-!
# Errors of arguments

An evaluation that ends with an index outside of a list is reported as an error of the arguments or as an error
of the script. All that is known of the list is its length. So an error of the arguments is reported exactly if
the script ends with the fault that an index outside of `args` has, whichever list it was that had it.
-/

namespace PlaceholderScripts

inductive ScriptEnd where
  | notExecuted (e : EvaluationError)
  /-- It was executed with these items under `args`. -/
  | executed (items : List Script.Value) (result : Except RunError Script.Value)

def errorOf? {ε α : Type} : Except ε α → Option ε
  | .error e => some e
  | .ok _ => none

theorem errorOf?_eq_some_iff {ε α : Type} {r : Except ε α} {e : ε} :
    errorOf? r = some e ↔ r = .error e := by
  cases r <;> simp [errorOf?]

def EvaluationError.blaming (ofArguments : Bool) (script message : String) : EvaluationError :=
  if ofArguments then .argument script message else .scriptExecution script message

/-- What the error is about, if it blames a script or its arguments. -/
def EvaluationError.blame? : EvaluationError → Option (Bool × String × String)
  | .argument script message => some (true, script, message)
  | .scriptExecution script message => some (false, script, message)
  | .contextCreation _ => none
  | .substitution _ => none

theorem EvaluationError.blame?_eq_some_iff {e : EvaluationError} {ofArguments : Bool}
    {script message : String} :
    e.blame? = some (ofArguments, script, message) ↔ e = .blaming ofArguments script message := by
  cases e <;> cases ofArguments <;> simp [blame?, blaming]

/-- The run ended with the fault that an index outside of these items has. -/
def RunError.IsOutside (items : List Script.Value) (cause : RunError) : Prop :=
  ∃ e index, cause = .script e ∧ Script.Part.get (.list items) (.int index) = .error e.fault

/-- The fault is sound, if there is one. -/
def RunError.Sound : RunError → Prop
  | .script e => e.fault.Sound
  | .exhausted => True

namespace RunError

variable {items others : List Script.Value} {cause : RunError}

theorem isOutside_iff (h : cause.Sound) :
    cause.IsOutside items ↔ ∃ index, ExecutionError.ofRun cause = .indexOutOfBounds items.length index := by
  constructor
  · rintro ⟨e, index, rfl, hget⟩
    obtain ⟨hfault, -⟩ := Script.Part.get_list_eq_error.mp hget
    exact ⟨index, by rw [ExecutionError.ofRun, hfault]⟩
  · rintro ⟨index, hindex⟩
    cases cause with
    | exhausted => cases hindex
    | script e =>
      refine ⟨e, index, rfl, Script.Part.get_list_eq_error.mpr ⟨?_, h⟩⟩
      rw [ExecutionError.ofRun] at hindex
      split at hindex
      · next hfault =>
        obtain ⟨rfl, rfl⟩ := ExecutionError.indexOutOfBounds.inj hindex
        exact hfault
      · cases hindex

/-- Of lists that are equally long, an index is outside of both or of neither. -/
theorem isOutside_iff_length_eq (h : cause.IsOutside others) :
    cause.IsOutside items ↔ items.length = others.length := by
  obtain ⟨e, index, rfl, hget⟩ := h
  obtain ⟨hfault, hsound⟩ := Script.Part.get_list_eq_error.mp hget
  constructor
  · rintro ⟨e', index', heq, hget'⟩
    obtain rfl := RunError.script.inj heq
    obtain ⟨hfault', -⟩ := Script.Part.get_list_eq_error.mp hget'
    rw [hfault] at hfault'
    exact (Script.Fault.listBounds.inj hfault').1.symm
  · intro hlength
    exact ⟨e, index, rfl, Script.Part.get_list_eq_error.mpr ⟨by rw [hlength, hfault], hsound⟩⟩

end RunError

namespace Evaluator

/-- Executes the script with arguments, if there is an interpreter for it. -/
def endScript (evaluator : Evaluator) (worker : Worker) (d : Definition) (identity : Identity)
    (args : List String) (script : String) : Program (ScriptEnd × Definition × Evaluator) := do
  match evaluator.pool.acquire worker (evaluator.defaultBindings d) with
  | (.error e, pool) => return (.notExecuted (.contextCreation e), d, { evaluator with pool })
  | (.ok context, pool) =>
    let scope := Pool.boundVariables (callBindings identity args) ++ context.scope
    let (result, data) ← Dialogue.relay reply
      (Script.execute script context.interpreter.modules context.rounds scope) d.data
    return (.executed (args.map .text) result, { d with data }, { evaluator with pool })

/-- Executes the script of a definition, unless the service fails on a text before. -/
def runScript (evaluator : Evaluator) (worker : Worker) (d : Definition) (identity : Identity)
    (args : List String) : Program (ScriptEnd × Definition × Evaluator) := do
  match ← scan identity d.template with
  | .error e => return (.notExecuted (.substitution e), d, evaluator)
  | .ok script =>
    match ← substituteAll identity args with
    | .error e => return (.notExecuted (.substitution e), d, evaluator)
    | .ok args => evaluator.endScript worker d identity args script

/-- What an evaluation makes of the end of its script. -/
def report (identity : Identity) :
    ScriptEnd × Definition × Evaluator →
      Program (Except EvaluationError String × Definition × Evaluator)
  | (.notExecuted e, d, evaluator) => return (.error e, d, evaluator)
  | (.executed items (.error cause), d, evaluator) =>
    return (.error (failure d items.length (.ofRun cause)), d, evaluator)
  | (.executed _ (.ok v), d, evaluator) => do
    match ← resultText identity v with
    | .error e => return (.error (.substitution e), d, evaluator)
    | .ok text => return (.ok text, d, evaluator)

variable (evaluator : Evaluator) (worker : Worker) (d : Definition) (identity : Identity)
  (args : List String)

theorem execute_eq_endScript_bind (script : String) :
    evaluator.execute worker d identity args script =
      (evaluator.endScript worker d identity args script).bind (report identity) := by
  unfold execute endScript
  rcases evaluator.pool.acquire worker (evaluator.defaultBindings d) with ⟨made, pool⟩
  cases made with
  | error e => rfl
  | ok context =>
    simp only [Context.execute, Dialogue.bind_eq, Dialogue.relay_bind, Dialogue.bind_assoc]
    refine congrArg _ (funext fun ended => ?_)
    obtain ⟨result, data⟩ := ended
    cases result with
    | error cause => simp [report, Dialogue.relay, Except.mapError, List.length_map]
    | ok v => rfl

theorem compute_eq_runScript_bind :
    evaluator.compute worker d identity args =
      (evaluator.runScript worker d identity args).bind (report identity) := by
  unfold compute runScript
  simp only [Dialogue.bind_eq, Dialogue.bind_assoc]
  refine congrArg _ (funext fun scanned => ?_)
  cases scanned with
  | error e => rfl
  | ok script =>
    simp only [Dialogue.bind_assoc]
    refine congrArg _ (funext fun substituted => ?_)
    cases substituted with
    | error e => rfl
    | ok args => exact execute_eq_endScript_bind evaluator worker d identity args script

/-- The error for a script tells whether an index was outside of a list as long as `args`. -/
theorem failure_eq (items : List Script.Value) {cause : RunError} (h : cause.Sound) :
    (cause.IsOutside items → failure d items.length (.ofRun cause) =
      .argument d.identifier (ExecutionError.ofRun cause).message) ∧
    (¬ cause.IsOutside items → failure d items.length (.ofRun cause) =
      .scriptExecution d.identifier (ExecutionError.ofRun cause).message) := by
  rw [RunError.isOutside_iff h]
  constructor
  · rintro ⟨index, hindex⟩
    rw [hindex, failure, if_pos rfl]
  · intro hother
    cases hcause : ExecutionError.ofRun cause with
    | script message => rfl
    | indexOutOfBounds length index =>
      rw [failure, if_neg]
      rintro rfl
      exact hother ⟨index, hcause⟩

theorem substituteAll_ensures_length :
    (substituteAll identity args).Ensures fun r => ∀ args', r = .ok args' → args'.length = args.length := by
  have hpass := congrArg ExceptT.run (substituteAll_eq_mapM identity args)
  rw [ExceptT.run_mk, ExceptT.run_map, map_eq_pure_bind] at hpass
  rw [hpass]
  refine Dialogue.ensures_bind _ fun values args' hargs => ?_
  cases values with
  | error e => exact nomatch hargs
  | ok values =>
    obtain rfl := Except.ok.inj hargs
    exact length_prepared args values

end Evaluator

/-- What can become of the script of an evaluation with so many arguments. -/
def ScriptEnd.Sound (count : Nat) : ScriptEnd → Prop
  | .notExecuted e => (∃ cause, e = .substitution cause) ∨ ∃ cause, e = .contextCreation cause
  | .executed items result => items.length = count ∧ ∀ cause, result = .error cause → cause.Sound

namespace Evaluator

variable (evaluator : Evaluator) (worker : Worker) (d : Definition) (identity : Identity)
  (args : List String)

theorem endScript_ensures (script : String) :
    (evaluator.endScript worker d identity args script).Ensures fun r =>
      r.1.Sound args.length ∧ r.2.1.identifier = d.identifier := by
  unfold endScript
  split
  · exact ⟨.inr ⟨_, rfl⟩, rfl⟩
  · next context pool _ =>
    have hexecute := Script.execute_ensures script context.interpreter.modules context.rounds
      (Pool.boundVariables (callBindings identity args) ++ context.scope)
    refine (hexecute.relay reply d.data).bind ?_
    rintro ⟨result, data⟩ hresult
    refine ⟨⟨List.length_map _, fun cause hcause => ?_⟩, rfl⟩
    cases cause with
    | exhausted => exact trivial
    | script e => exact hresult e hcause

theorem runScript_ensures :
    (evaluator.runScript worker d identity args).Ensures fun r =>
      r.1.Sound args.length ∧ r.2.1.identifier = d.identifier := by
  refine Dialogue.ensures_bind _ fun scanned => ?_
  cases scanned with
  | error e => exact ⟨.inl ⟨_, rfl⟩, rfl⟩
  | ok script =>
    refine (substituteAll_ensures_length identity args).bind fun substituted hlength => ?_
    cases substituted with
    | error e => exact ⟨.inl ⟨_, rfl⟩, rfl⟩
    | ok args' =>
      rw [← hlength args' rfl]
      exact endScript_ensures evaluator worker d identity args' script

end Evaluator

/-- What is reported of the end of a script by this name. -/
inductive Reported (identifier : String) : ScriptEnd → Except EvaluationError String → Prop
  | notExecuted (e : EvaluationError) : Reported identifier (.notExecuted e) (.error e)
  | outside {items : List Script.Value} {cause : RunError} (h : cause.IsOutside items) :
      Reported identifier (.executed items (.error cause))
        (.error (.argument identifier (ExecutionError.ofRun cause).message))
  | failed {items : List Script.Value} {cause : RunError} (h : ¬ cause.IsOutside items) :
      Reported identifier (.executed items (.error cause))
        (.error (.scriptExecution identifier (ExecutionError.ofRun cause).message))
  /-- The service fails on the text of the value. -/
  | refused (items : List Script.Value) (v : Script.Value) (e : SubstitutionError) :
      Reported identifier (.executed items (.ok v)) (.error (.substitution e))
  | succeeded (items : List Script.Value) (v : Script.Value) (text : String) :
      Reported identifier (.executed items (.ok v)) (.ok text)

namespace Reported

variable {identifier : String} {ended : ScriptEnd} {result : Except EvaluationError String} {count : Nat}

theorem eq_blaming_iff (h : Reported identifier ended result) (hsound : ended.Sound count)
    (ofArguments : Bool) (script message : String) :
    result = .error (.blaming ofArguments script message) ↔
      ∃ items cause, ended = .executed items (.error cause) ∧
        (cause.IsOutside items ↔ ofArguments = true) ∧
        script = identifier ∧ message = (ExecutionError.ofRun cause).message := by
  cases h with
  | notExecuted e =>
    rcases hsound with ⟨cause, rfl⟩ | ⟨cause, rfl⟩ <;> cases ofArguments <;> simp [EvaluationError.blaming]
  | outside houtside => cases ofArguments <;> grind [EvaluationError.blaming]
  | failed hother => cases ofArguments <;> grind [EvaluationError.blaming]
  | refused items v e => cases ofArguments <;> simp [EvaluationError.blaming]
  | succeeded items v text => simp

end Reported

namespace Evaluator

theorem report_ensures (identity : Identity) {count : Nat} {r : ScriptEnd × Definition × Evaluator}
    (h : r.1.Sound count) :
    (report identity r).Ensures fun r' => Reported r.2.1.identifier r.1 r'.1 := by
  obtain ⟨ended, d, evaluator⟩ := r
  cases ended with
  | notExecuted e => exact Reported.notExecuted e
  | executed items ending =>
    cases ending with
    | ok v =>
      refine Dialogue.ensures_bind _ fun text => ?_
      cases text with
      | error e => exact Reported.refused items v e
      | ok text => exact Reported.succeeded items v text
    | error cause =>
      obtain ⟨houtside, hother⟩ := failure_eq d items (h.2 cause rfl)
      change Reported d.identifier _ (.error (failure d items.length (.ofRun cause)))
      by_cases hcause : cause.IsOutside items
      · rw [houtside hcause]
        exact .outside hcause
      · rw [hother hcause]
        exact .failed hcause

theorem finish_ensures (keys : Option (RequesterKey × String)) {P : Except EvaluationError String → Prop}
    {r : Except EvaluationError String × Definition × Evaluator} (h : P r.1) :
    (finish keys r).Ensures fun r' => P r'.1 := by
  obtain ⟨result, d, evaluator⟩ := r
  cases result with
  | error e => exact h
  | ok text => exact Dialogue.ensures_bind _ fun _ => h

theorem report_finish_ensures (identity : Identity) (keys : Option (RequesterKey × String)) {count : Nat}
    {r : ScriptEnd × Definition × Evaluator} (h : r.1.Sound count) :
    ((report identity r).bind (finish keys)).Ensures fun r' => Reported r.2.1.identifier r.1 r'.1 :=
  (report_ensures identity h).bind fun _ hreported =>
    finish_ensures keys (P := Reported r.2.1.identifier r.1) hreported

end Evaluator

namespace Session

variable {σ : Type} (reply : σ → (q : Request) → q.Reply × σ) (x : Session σ) (c : Call)

/-- What becomes of the script of a call that is not answered by the cache. -/
def scriptEnd : ScriptEnd :=
  (Dialogue.run reply
    (x.evaluator.runScript c.worker (x.recalled reply c).1.2 c.identity c.args)
    (x.recalled reply c).2).1.1

variable {reply} {x} {c}

theorem sound_scriptEnd : (x.scriptEnd reply c).Sound c.args.length :=
  ((Evaluator.runScript_ensures _ _ _ _ _).run reply _).1

/-- Every call that is not answered by the cache reports the end of its script. -/
theorem reported_outcome (h : x.executes reply c = true) :
    Reported x.definition.identifier (x.scriptEnd reply c) (x.outcome reply c).1.1 := by
  have hidentifier : (x.recalled reply c).1.2.identifier = x.definition.identifier := by
    rw [recalled_definition]
  have hended := (Evaluator.runScript_ensures x.evaluator c.worker (x.recalled reply c).1.2 c.identity
    c.args).run reply (x.recalled reply c).2
  rw [outcome_of_executes h, Evaluator.perform_eq_compute_bind, Evaluator.compute_eq_runScript_bind,
    Dialogue.bind_assoc, Dialogue.run_bind, scriptEnd, ← hidentifier, ← hended.2]
  exact (Evaluator.report_finish_ensures c.identity _ hended.1).run reply _

theorem outcome_eq_blaming_iff (ofArguments : Bool) (script message : String) :
    (x.outcome reply c).1.1 = .error (.blaming ofArguments script message) ↔
      x.executes reply c = true ∧ ∃ items cause, x.scriptEnd reply c = .executed items (.error cause) ∧
        (cause.IsOutside items ↔ ofArguments = true) ∧ script = x.definition.identifier ∧
        message = (ExecutionError.ofRun cause).message := by
  have hblaming (h : x.executes reply c = true) :=
    (reported_outcome h).eq_blaming_iff sound_scriptEnd ofArguments script message
  constructor
  · intro hresult
    have hexecutes := executes_of_error hresult
    exact ⟨hexecutes, (hblaming hexecutes).mp hresult⟩
  · rintro ⟨hexecutes, hended⟩
    exact (hblaming hexecutes).mpr hended

/-- Nothing but the length of the list is known of an index outside of a list. A call ends with an error of its
arguments exactly if its script ends with the fault that an index outside of `args` has, and with an error
of the script exactly if the script fails otherwise. So where an index is outside of some list, in
whatever calls, it depends on the length of that list alone whether it is reported as one outside of `args`. -/
theorem argument_error_iff (x : Session σ) (c : Call) :
    let ended := x.scriptEnd reply c
    let result := (x.outcome reply c).1.1
    (∀ items ending, ended = .executed items ending → items.length = c.args.length) ∧
    (∀ script message, result = .error (.argument script message) ↔
      x.executes reply c = true ∧ ∃ items cause, ended = .executed items (.error cause) ∧
        cause.IsOutside items ∧ script = x.definition.identifier ∧
        message = (ExecutionError.ofRun cause).message) ∧
    (∀ script message, result = .error (.scriptExecution script message) ↔
      x.executes reply c = true ∧ ∃ items cause, ended = .executed items (.error cause) ∧
        ¬ cause.IsOutside items ∧ script = x.definition.identifier ∧
        message = (ExecutionError.ofRun cause).message) ∧
    ∀ items cause others, ended = .executed items (.error cause) → cause.IsOutside others →
      (cause.IsOutside items ↔ items.length = others.length) := by
  intro ended result
  have hsound : ended.Sound c.args.length := sound_scriptEnd
  have hblaming := @outcome_eq_blaming_iff σ reply x c
  refine ⟨?length, ?argument, ?scriptExecution, fun _ _ _ _ h => RunError.isOutside_iff_length_eq h⟩
  case length =>
    intro items ending hended
    rw [hended] at hsound
    exact hsound.1
  case argument =>
    intro script message
    simpa [EvaluationError.blaming] using hblaming true script message
  case scriptExecution =>
    intro script message
    simpa [EvaluationError.blaming] using hblaming false script message

/-- A script that is evaluated alone. -/
def solitary (template : String) : Session World :=
  start (.new { library := ⟨[]⟩, rounds := 10 } {}) (Definition.ephemeral "script" template)
    ⟨⟨[], []⟩, .zero, fun _ _ text => .ok text⟩

/-- The one item list `xs` is taken for `args`. The script fails in the same way where nothing at all is bound, and
so not for what is bound to `args`. On the other hand `args` itself is not recognised any more where the
script has made it longer. -/
theorem other_list_taken_for_args :
    let result (template : String) :=
      ((solitary template).outcome World.reply ⟨0, .anonymous, ["a"]⟩).1.1
    let other := "let xs = [\"b\"]; xs[5]"
    let longer := "args.push(\"b\"); args[5]"
    result other = .error (.argument "script" "Index 5 out of bounds for length 1") ∧
      (∃ cause, (Dialogue.run Script.unhosted (Script.execute other [] 10 []) ()).1 = .error cause ∧
        ExecutionError.ofRun cause = .indexOutOfBounds 1 5) ∧
      result longer = .error (.scriptExecution "script" "Index 5 out of bounds for length 2") := by
  intro result other longer
  have hother : (errorOf? (result other)).bind EvaluationError.blame? =
      some (true, "script", "Index 5 out of bounds for length 1") := by decide +kernel
  have hunbound : (errorOf? (Dialogue.run Script.unhosted (Script.execute other [] 10 []) ()).1).map
      ExecutionError.ofRun = some (.indexOutOfBounds 1 5) := by decide +kernel
  have hlonger : (errorOf? (result longer)).bind EvaluationError.blame? =
      some (false, "script", "Index 5 out of bounds for length 2") := by decide +kernel
  obtain ⟨e, he, hargument⟩ := Option.bind_eq_some_iff.mp hother
  obtain ⟨cause, hcause, hbounds⟩ := Option.map_eq_some_iff.mp hunbound
  obtain ⟨e', he', hexecution⟩ := Option.bind_eq_some_iff.mp hlonger
  rw [EvaluationError.blame?_eq_some_iff] at hargument hexecution
  rw [errorOf?_eq_some_iff] at he hcause he'
  exact ⟨he.trans (congrArg _ hargument), ⟨cause, hcause, hbounds⟩, he'.trans (congrArg _ hexecution)⟩

end Session

end PlaceholderScripts
