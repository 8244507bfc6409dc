import PlaceholderScripts.Proofs.Evaluation.Reproduction
import PlaceholderScripts.Proofs.Loading.Load

/-!
# What commands touch

A command leaves the scripts and the files alone, with three exceptions: a reload does what the loader's
reload does, and the two debug commands write the data file of the script that they name, or read it into the
values of the script. Code that a command evaluates gets an empty store that belongs to no file. So what such
a command prints depends on no earlier command.
-/

namespace PlaceholderScripts

namespace ParseTarget

/-- How a target is written in a command. -/
def word : ParseTarget → String
  | .me => "me"
  | .anonymous => "anon"

/-- On whose behalf the sender has code evaluated, which cannot be his own if he is nobody. -/
def requester? (sender : Identity) : ParseTarget → Option Identity
  | .me => if sender.isAnonymous then none else some sender
  | .anonymous => some .anonymous

end ParseTarget

/-- How an action is written in a command. -/
def DebugAction.word : DebugAction → String
  | .saveData => "savedata"
  | .loadData => "loaddata"

namespace ExpansionCommand

variable {args : List String}

theorem ofArgs_eq_reload_iff : ofArgs args = .reload ↔ args = ["reload"] := by
  constructor
  · intro h
    unfold ofArgs at h
    split at h <;> first | rfl | cases h
  · rintro rfl
    rfl

theorem ofArgs_eq_debug_iff {action : DebugAction} {identifier : String} :
    ofArgs args = .debug action identifier ↔ args = ["debug", action.word, identifier] := by
  constructor
  · intro h
    unfold ofArgs at h
    split at h <;> cases h <;> rfl
  · rintro rfl
    cases action <;> rfl

theorem ofArgs_eq_parse_iff {target : ParseTarget} {code : String} :
    ofArgs args = .parse target code ↔
      ∃ first more, args = "parse" :: target.word :: first :: more ∧
        code = " ".intercalate (first :: more) := by
  constructor
  · intro h
    unfold ofArgs at h
    split at h <;> cases h <;> exact ⟨_, _, rfl, rfl⟩
  · rintro ⟨first, more, rfl, rfl⟩
    cases target <;> rfl

end ExpansionCommand

theorem World.service_reply (world : World) (q : Request) :
    (world.reply q).2.service = world.service := by
  cases q with
  | now => rfl
  | readText path => rfl
  | substitute form identity text => rfl
  | writeText path text =>
    simp only [reply]
    cases world.files.writeText path text <;> rfl
  | createParents path =>
    simp only [reply]
    cases Path.parentNames? path <;> rfl

theorem World.service_run {α : Type} (program : Program α) (world : World) :
    (world.run program).2.service = world.service := by
  induction program generalizing world with
  | done a => rfl
  | ask q next ih => exact (ih _ _).trans (world.service_reply q)

namespace Evaluator

def SameService (world world' : World) : Prop := world'.service = world.service

/-- Code whose data never touches the disk is evaluated in the same way wherever substitutions have the same
replies. -/
theorem tryEvaluate_ephemeral_coupled {e e' : Evaluator} (h : e.Alike e') (worker : Worker)
    (identifier code : String) (identity : Identity) (args : List String) :
    Dialogue.Coupled World.reply SameService e.SameOutcome
      (e.tryEvaluate worker (.ephemeral identifier code) identity args)
      (e'.tryEvaluate worker (.ephemeral identifier code) identity args) := by
  have hsubstitute : ∀ form identity text, Dialogue.Coupled World.reply SameService Eq
      (Program.substitute form identity text) (Program.substitute form identity text) :=
    fun form identity text world world' hsame =>
      ⟨congrArg (fun service : SubstitutionService => service form identity text) hsame.symm, hsame⟩
  -- a store without a file is saved without asking for anything
  have hsave : ∀ store, (Definition.ephemeral identifier code).data.Evolves store →
      Dialogue.Coupled World.reply SameService Eq store.save store.save := by
    rintro _ ⟨values, rfl⟩
    exact .done rfl
  rw [tryEvaluate_of_disabled rfl, tryEvaluate_of_disabled rfl]
  exact compute_coupled hsubstitute hsave h worker identity args

end Evaluator

namespace Expansion

/-- What a command leaves behind: what it prints, the expansion and the world. -/
abbrev Aftermath := (CommandOutput × Expansion) × World

section

variable (x : Expansion) (worker : Worker) (sender : Identity) (world : World)

/-- What a command may leave of an expansion and of the world. -/
structure Touches (command : ExpansionCommand) (after : Aftermath) : Prop where
  loader : after.1.2.loader = x.loader
  evaluator : x.evaluator.pool.Sound → x.evaluator.Alike after.1.2.evaluator
  reload : command = .reload → ∃ result,
    world.run (x.loader.reload x.registry) = ((result, after.1.2.registry), after.2) ∧
      after.1.1 = .line (reloadLine result)
  /-- Only the data file of the script is written. -/
  saveData : ∀ identifier d, command = .debug .saveData identifier →
    x.registry.get? identifier = some d → after.1.2.registry = x.registry ∧
      after.2 = (world.run d.data.save).2 ∧ world.Confined d.data.path after.2
  /-- Only the values of the script are replaced. -/
  loadData : ∀ identifier handle d, command = .debug .loadData identifier →
    x.registry.handles.get? identifier = some handle → x.registry.definition? handle = some d →
    after.2 = world ∧ ∃ values,
      after.1.2.registry = x.registry.update handle { d with data := { d.data with values } }
  /-- Code is evaluated with an empty store that has no file. -/
  parse : ∀ target code, command = .parse target code → after.1.1 =
    match target.requester? sender with
    | none => .line "Only players can parse as 'me'"
    | some requester => .line (world.run (x.evaluator.evaluate worker
        { identifier := parseIdentifier, template := code, data := ⟨parseIdentifier, none, .empty⟩ }
        requester [])).1.1
  /-- All other commands, those that evaluate code among them, change neither scripts nor files. -/
  others : command ≠ .reload →
    (∀ action identifier, command = .debug action identifier → x.registry.get? identifier = none) →
    after.1.2.registry = x.registry ∧ after.2 = world

end

variable {x : Expansion} {worker : Worker} {sender : Identity} {world : World}

/-- A command that is no reload, names no registered script and evaluates no code. -/
theorem touches_nothing {command : ExpansionCommand} {out : CommandOutput} (hreload : command ≠ .reload)
    (hdebug : ∀ action identifier, command = .debug action identifier →
      x.registry.get? identifier = none)
    (hparse : ∀ target code, command = .parse target code →
      target.requester? sender = none ∧ out = .line "Only players can parse as 'me'") :
    x.Touches worker sender world command ((out, x), world) where
  loader := rfl
  evaluator := .refl
  reload := fun h => absurd h hreload
  saveData := by
    intro identifier d h hd
    rw [hdebug _ _ h] at hd
    cases hd
  loadData := by
    intro identifier handle d h hhandle hd
    rw [← Registry.get?_of_handle hhandle, hdebug _ _ h] at hd
    cases hd
  parse := by
    intro target code h
    obtain ⟨hnone, hout⟩ := hparse target code h
    rw [hnone]
    exact hout
  others := fun _ _ => ⟨rfl, rfl⟩

/-- Code whose data has no file leaves the world and all but the interpreters of the evaluator alone. -/
theorem run_evaluate_ephemeral (worker : Worker) (world : World) (identifier code : String)
    (identity : Identity) :
    ∃ text d evaluator, (x.evaluator.pool.Sound → x.evaluator.Alike evaluator) ∧
      world.run (x.evaluator.evaluate worker (.ephemeral identifier code) identity []) =
        ((text, d, evaluator), world) := by
  -- an evaluation writes at most the file of its store, and this one has none
  have hobeys := Evaluator.tryEvaluate_obeys x.evaluator worker identity [] (.ephemeral identifier code)
  have hworld : (x.evaluated worker (.ephemeral identifier code) identity [] world).2 = world :=
    World.confined_run hobeys world
  have halike : x.evaluator.pool.Sound → x.evaluator.Alike
      (x.evaluated worker (.ephemeral identifier code) identity [] world).1.2.2 := by
    intro hsound
    have hcoupled := Evaluator.tryEvaluate_ephemeral_coupled (.refl hsound) worker identifier code
      identity []
    exact (hcoupled world world rfl).1.evaluator
  rw [run_evaluate]
  generalize x.evaluated worker (.ephemeral identifier code) identity [] world = after
    at hworld halike
  obtain ⟨⟨result, d, evaluator⟩, world'⟩ := after
  obtain rfl : world' = world := hworld
  exact ⟨_, d, evaluator, halike, rfl⟩

theorem run_parse_of_none {target : ParseTarget} (h : target.requester? sender = none) (code : String) :
    world.run (x.parse worker sender target code) =
      ((.line "Only players can parse as 'me'", x), world) := by
  cases target with
  | anonymous => cases h
  | me =>
    have hnobody : sender.isAnonymous = true := by
      by_contra hsome
      rw [ParseTarget.requester?, if_neg hsome] at h
      cases h
    rw [parse, if_pos hnobody]
    rfl

theorem run_parse_of_some {target : ParseTarget} {requester : Identity}
    (h : target.requester? sender = some requester) (code : String) :
    world.run (x.parse worker sender target code) =
      let ((text, _, evaluator), world') := world.run
        (x.evaluator.evaluate worker (.ephemeral parseIdentifier code) requester [])
      ((.line text, { x with evaluator }), world') := by
  have hparse : x.parse worker sender target code =
      (x.evaluateCode worker parseIdentifier code requester).bind
        fun r => .done (.line r.1, r.2) := by
    cases target with
    | anonymous =>
      cases h
      rfl
    | me =>
      rw [ParseTarget.requester?] at h
      split at h
      · cases h
      · next hsome =>
        cases h
        exact if_neg hsome
  rw [hparse, World.run, Dialogue.run_bind, evaluateCode, Dialogue.bind_eq, Dialogue.run_bind]
  rfl

/-- Reading values from a file leaves the world alone, and all of the store but its values. -/
theorem run_storeReload (world : World) (store : Store) :
    ∃ result values, world.run store.reload = ((result, { store with values }), world) := by
  obtain ⟨identifier, path, values⟩ := store
  cases path with
  | none => exact ⟨.ok (), values, rfl⟩
  | some path =>
    rw [World.run, Loader.run_reload_store World.steadyFiles rfl]
    cases Store.valuesOfReply path (world.texts path) with
    | ok found => exact ⟨.ok (), found, rfl⟩
    | error e => exact ⟨.error e, values, rfl⟩

theorem run_debugData_of_none {identifier : String} (h : x.registry.get? identifier = none)
    (action : DebugAction) :
    world.run (x.debugData action identifier) =
      ((.line ("Invalid script identifier '" ++ identifier ++ "'"), x), world) := by
  rw [debugData, h]
  cases x.registry.handles.get? identifier <;> rfl

theorem run_debugData_save {identifier : String} {d : Definition}
    (h : x.registry.get? identifier = some d) :
    world.run (x.debugData .saveData identifier) =
      let (result, world') := world.run d.data.save
      ((dataLine "Saved" identifier result, x), world') := by
  obtain ⟨handle, hhandle, -⟩ := Registry.get?_eq_some_iff.mp h
  rw [debugData, h, hhandle, World.run]
  simp only [Dialogue.bind_eq, Dialogue.run_bind]
  rfl

theorem run_debugData_load {identifier : String} {handle : Handle} {d : Definition}
    (hhandle : x.registry.handles.get? identifier = some handle)
    (hd : x.registry.definition? handle = some d) :
    world.run (x.debugData .loadData identifier) =
      let ((result, data), world') := world.run d.data.reload
      ((dataLine "Loaded" identifier result,
        { x with registry := x.registry.update handle { d with data } }), world') := by
  rw [debugData, Registry.get?_of_handle hhandle, hd, hhandle, World.run]
  simp only [Dialogue.bind_eq, Dialogue.run_bind]
  rfl

theorem touches_parse (target : ParseTarget) (code : String) :
    x.Touches worker sender world (.parse target code)
      (world.run (x.parse worker sender target code)) := by
  cases hrequester : target.requester? sender with
  | none =>
    rw [run_parse_of_none hrequester]
    refine touches_nothing nofun nofun ?_
    rintro _ _ ⟨⟩
    exact ⟨hrequester, rfl⟩
  | some requester =>
    obtain ⟨text, d, evaluator, halike, hrun⟩ :=
      run_evaluate_ephemeral worker world parseIdentifier code requester
    rw [run_parse_of_some hrequester, hrun]
    exact
      { loader := rfl
        evaluator := halike
        reload := nofun
        saveData := nofun
        loadData := nofun
        parse := by
          rintro _ _ ⟨⟩
          rw [hrequester]
          exact congrArg (fun after => CommandOutput.line after.1.1) hrun.symm
        others := fun _ _ => ⟨rfl, rfl⟩ }

theorem touches_reload :
    x.Touches worker sender world .reload
      (world.run (x.reload.bind fun r => .done (.line (reloadLine r.1), r.2))) := by
  rw [World.run, Dialogue.run_bind, reload, Dialogue.bind_eq, Dialogue.run_bind]
  generalize hrun : Dialogue.run World.reply (x.loader.reload x.registry) world = after
  obtain ⟨⟨result, registry⟩, world'⟩ := after
  exact
    { loader := rfl
      evaluator := .refl
      reload := fun _ => ⟨result, hrun, rfl⟩
      saveData := by simp
      loadData := by simp
      parse := by simp
      others := fun h => absurd rfl h }

theorem touches_saveData {identifier : String} {d : Definition}
    (hd : x.registry.get? identifier = some d) :
    x.Touches worker sender world (.debug .saveData identifier)
      (world.run (x.debugData .saveData identifier)) := by
  have hconfined := World.confined_run (Store.save_obeys d.data) world
  rw [run_debugData_save hd]
  generalize hrun : world.run d.data.save = after at hconfined
  obtain ⟨saved, world'⟩ := after
  exact
    { loader := rfl
      evaluator := .refl
      reload := nofun
      saveData := by
        rintro _ d' ⟨⟩ hd'
        obtain rfl : d = d' := Option.some.inj (hd.symm.trans hd')
        exact ⟨rfl, (congrArg Prod.snd hrun).symm, hconfined⟩
      loadData := nofun
      parse := nofun
      others := fun _ h => nomatch hd.symm.trans (h _ _ rfl) }

theorem touches_loadData {identifier : String} {handle : Handle} {d : Definition}
    (hhandle : x.registry.handles.get? identifier = some handle)
    (hd : x.registry.definition? handle = some d) :
    x.Touches worker sender world (.debug .loadData identifier)
      (world.run (x.debugData .loadData identifier)) := by
  obtain ⟨result, values, hrun⟩ := run_storeReload world d.data
  rw [run_debugData_load hhandle hd, hrun]
  exact
    { loader := rfl
      evaluator := .refl
      reload := nofun
      saveData := nofun
      loadData := by
        rintro _ handle' d' ⟨⟩ hhandle' hd'
        obtain rfl : handle = handle' := Option.some.inj (hhandle.symm.trans hhandle')
        obtain rfl : d = d' := Option.some.inj (hd.symm.trans hd')
        exact ⟨rfl, values, rfl⟩
      parse := nofun
      others := fun _ h =>
        nomatch ((Registry.get?_of_handle hhandle).trans hd).symm.trans (h _ _ rfl) }

theorem touches_debug (action : DebugAction) (identifier : String) :
    x.Touches worker sender world (.debug action identifier)
      (world.run (x.debugData action identifier)) := by
  cases hd : x.registry.get? identifier with
  | none =>
    rw [run_debugData_of_none hd]
    refine touches_nothing nofun ?_ nofun
    rintro _ _ ⟨⟩
    exact hd
  | some d =>
    cases action with
    | saveData => exact touches_saveData hd
    | loadData =>
      obtain ⟨handle, hhandle, hd⟩ := Registry.get?_eq_some_iff.mp hd
      exact touches_loadData hhandle hd

theorem touches_execute (args : List String) :
    x.Touches worker sender world (.ofArgs args) (world.run (x.execute worker sender args)) := by
  rw [execute]
  cases ExpansionCommand.ofArgs args with
  | list | help | unknown =>
    change x.Touches _ _ _ _ ((_, x), world)
    exact touches_nothing nofun nofun nofun
  | parse target code => exact touches_parse target code
  | reload => exact touches_reload
  | debug action identifier => exact touches_debug action identifier

/-- Code is evaluated to the same text wherever the evaluators are alike and substitutions have the same
replies. -/
theorem evaluate_ephemeral_same {x' : Expansion} {world' : World}
    (halike : x.evaluator.Alike x'.evaluator) (hservice : world'.service = world.service)
    (identifier code : String) (identity : Identity) :
    (world'.run (x'.evaluator.evaluate worker (.ephemeral identifier code) identity [])).1.1 =
      (world.run (x.evaluator.evaluate worker (.ephemeral identifier code) identity [])).1.1 := by
  have hcoupled := Evaluator.tryEvaluate_ephemeral_coupled halike worker identifier code identity []
  have hresult := (hcoupled world world' hservice).1.result
  rw [run_evaluate, run_evaluate]
  exact congrArg Evaluator.answer hresult

structure Typed where
  worker : Worker
  sender : Identity
  words : List String

/-- The expansion and the world after commands. -/
def carriedOut (x : Expansion) (world : World) : List Typed → Expansion × World
  | [] => (x, world)
  | c :: rest =>
    let after := world.run (x.execute c.worker c.sender c.words)
    after.1.2.carriedOut after.2 rest

/-- Commands change neither what the evaluator knows nor the replies to substitutions. -/
theorem carriedOut_keeps (hsound : x.evaluator.pool.Sound) (world : World) (cs : List Typed) :
    x.evaluator.Alike (x.carriedOut world cs).1.evaluator ∧
      (x.carriedOut world cs).2.service = world.service := by
  induction cs generalizing x world with
  | nil => exact ⟨.refl hsound, rfl⟩
  | cons c rest ih =>
    have hfirst : x.Touches c.worker c.sender world (.ofArgs c.words) _ := touches_execute c.words
    obtain ⟨halike, hservice⟩ := ih (hfirst.evaluator hsound).sound' _
    exact ⟨(hfirst.evaluator hsound).trans halike, hservice.trans (world.service_run _)⟩

/-- A command touches the scripts and the files only where it says so. What comes of code that is evaluated
does not depend on the commands before it. -/
theorem execute_touches (x : Expansion) (worker : Worker) (sender : Identity) (args : List String)
    (world : World) :
    x.Touches worker sender world (.ofArgs args) (world.run (x.execute worker sender args)) ∧
      (ExpansionCommand.ofArgs args = .reload ↔ args = ["reload"]) ∧
      (∀ action identifier, ExpansionCommand.ofArgs args = .debug action identifier ↔
        args = ["debug", action.word, identifier]) ∧
      (∀ target code, ExpansionCommand.ofArgs args = .parse target code ↔
        ∃ first more, args = "parse" :: target.word :: first :: more ∧
          code = " ".intercalate (first :: more)) ∧
      (x.evaluator.pool.Sound → ∀ target code, ExpansionCommand.ofArgs args = .parse target code →
        ∀ earlier, let (x', world') := x.carriedOut world earlier
          (world'.run (x'.execute worker sender args)).1.1 =
            (world.run (x.execute worker sender args)).1.1) := by
  refine ⟨touches_execute args, ExpansionCommand.ofArgs_eq_reload_iff,
    fun _ _ => ExpansionCommand.ofArgs_eq_debug_iff, fun _ _ => ExpansionCommand.ofArgs_eq_parse_iff,
    fun hsound target code hcommand earlier => ?_⟩
  obtain ⟨halike, hservice⟩ := carriedOut_keeps hsound world earlier
  have hfirst : x.Touches worker sender world (.ofArgs args) _ := touches_execute args
  have hlater : (x.carriedOut world earlier).1.Touches worker sender (x.carriedOut world earlier).2
    (.ofArgs args) _ := touches_execute args
  refine (hlater.parse target code hcommand).trans ((hfirst.parse target code hcommand).trans ?_).symm
  cases target.requester? sender with
  | none => rfl
  | some requester =>
    exact congrArg CommandOutput.line (evaluate_ephemeral_same halike hservice _ _ _).symm

/-- Code that counts its values and adds one finds none, also when it is typed for the second time. -/
theorem execute_touches_counting :
    let x : Expansion :=
      { evaluator := .new { library := ⟨[]⟩, rounds := 10 } {}
        loader := .new "scripts.yml" "scripts" }
    let world : World := ⟨⟨[], []⟩, .zero, fun _ _ text => .ok text⟩
    let words := ["parse", "anon", "let n = Data.keys().len();", "Data.set(\"n\", 1);", "n"]
    let (x', world') := x.carriedOut world [⟨0, .anonymous, words⟩]
    x.evaluator.pool.Sound ∧
      (∃ code, ExpansionCommand.ofArgs words = .parse .anonymous code) ∧
      (world'.run (x'.execute 0 .anonymous words)).1.1 = .line "0" := by
  intro x world words
  have hsound : x.evaluator.pool.Sound := (Evaluator.alike_new _ _).sound
  have hfirst : (world.run (x.execute 0 .anonymous words)).1.1 = .line "0" := by decide +kernel
  obtain ⟨-, -, -, -, hsame⟩ := execute_touches x 0 .anonymous words world
  exact ⟨hsound, ⟨_, rfl⟩, (hsame hsound _ _ rfl [⟨0, .anonymous, words⟩]).trans hfirst⟩

end Expansion

end PlaceholderScripts
