import PlaceholderScripts.CommandLine.Run
import PlaceholderScripts.Proofs.Evaluation.Reproduction
import PlaceholderScripts.Proofs.Loading.Persistence

/-!
# Processes

Scripts can be evaluated by a process of its own each time, which loads all scripts, evaluates one and
saves all, or by a single process that loads once and saves at the end. Wherever two registries serve the
same values, a script without a cache goes the same way on both, also where it fails after it has changed
something, and both serve the same values after it.
-/

namespace PlaceholderScripts

namespace CommandLine

/-- A process that evaluates a configured script: with which arguments, what its clock reads, and which id
it gives to a player who has none. -/
structure Start where
  identifier : String
  args : List String
  reading : Instant
  fresh : PlayerId

def Start.call (start : Start) : String × List String := (start.identifier, start.args)

/-- The script of the start can be loaded, and its results are not kept, whether its policy is read when
the process starts or at the given time. -/
def Start.IsUncached (loader : Loader) (configuration : Configuration)
    (texts : Path → Except FileError String) (now : Instant) (start : Start) : Prop :=
  ∃ entry template values, configuration.get? start.identifier = some entry ∧
    loader.Loadable texts start.identifier entry template values ∧
    entry.policy start.reading = .disabled ∧ entry.policy now = .disabled

/-- Evaluates configured scripts one after the other. -/
def evalAll (identity : Identity) :
    List (String × List String) → Expansion → Program (List Outcome × Expansion)
  | [], x => return ([], x)
  | (identifier, args) :: rest, x => do
    let (outcome, x) ← evalScript x identity identifier args
    let (outcomes, x) ← evalAll identity rest x
    return (outcome :: outcomes, x)

namespace Invocation

variable (invocation : Invocation) (environment : Settings) (factory : Factory)

def expansion (fresh : PlayerId) : Expansion :=
  expansionOf (invocation.settings environment) (invocation.requester.identity fresh) factory

/-- The process of a start: the same options, and the script to evaluate. -/
def process (start : Start) : Program Outcome :=
  { invocation with action := .eval start.identifier start.args }.run environment factory start.fresh []

/-- A process for each start, one after the other in a world that they share. -/
def restarts : List Start → World → List Outcome × World
  | [], world => ([], world)
  | start :: rest, world =>
    let (outcome, world) :=
      World.run { world with clock := start.reading } (invocation.process environment factory start)
    let (outcomes, world) := restarts rest world
    (outcome :: outcomes, world)

/-- Loads once, and evaluates one call after the other, unless the scripts cannot be loaded. -/
def serve (fresh : PlayerId) (calls : List (String × List String)) :
    Program (List Outcome × Expansion) := do
  let (result, x) ← (invocation.expansion environment factory fresh).load
  match result with
  | .error _ => return ([], x)
  | .ok _ => evalAll (invocation.requester.identity fresh) calls x

/-- A single process for all calls, which saves at the end. -/
def serveAndSave (fresh : PlayerId) (calls : List (String × List String)) :
    Program (List Outcome) := do
  let (outcomes, x) ← invocation.serve environment factory fresh calls
  let _ ← x.registry.saveAll
  return outcomes

def loader : Loader :=
  .new (invocation.settings environment).configPath (invocation.settings environment).scriptsDir

end Invocation

end CommandLine

namespace Loader.DataDir

variable {loader : Loader} {ids : String → Prop} {made : FileSystem} {dir : Place}

structure Sides (loader : Loader) (ids : String → Prop) (made : FileSystem) (dir : Place)
    (world world' : World) : Prop where
  service : world'.service = world.service
  ready : Ready loader ids made dir world.files
  ready' : Ready loader ids made dir world'.files

theorem substitute_coupled (form : TokenForm) (identity : Identity) (text : String) :
    Dialogue.Coupled World.reply (Sides loader ids made dir) Eq (Program.substitute form identity text)
      (Program.substitute form identity text) := by
  intro world world' h
  refine ⟨?_, h⟩
  change world.service form identity text = world'.service form identity text
  rw [h.service]

theorem save_coupled (h : loader.DataDir ids made dir) {store : Store} (howns : loader.Owns store)
    (hid : ids store.identifier) :
    Dialogue.Coupled World.reply (Sides loader ids made dir) Eq store.save store.save := by
  have hside {world : World} (hready : Ready loader ids made dir world.files) :
      (world.run store.save).1 = .ok () ∧
        (world.run store.save).2.service = world.service ∧
        Ready loader ids made dir (world.run store.save).2.files := by
    obtain ⟨files, hmaking, hgrown⟩ := hready
    rw [h.run_save world hmaking hgrown howns hid]
    exact ⟨rfl, rfl, h.ready (h.writeText hgrown hid store.text).2⟩
  intro world world' hsides
  obtain ⟨hresult, hservice, hready⟩ := hside hsides.ready
  obtain ⟨hresult', hservice', hready'⟩ := hside hsides.ready'
  refine ⟨hresult.trans hresult'.symm, ?_, hready, hready'⟩
  exact hservice'.trans (hsides.service.trans hservice.symm)

theorem tryEvaluate_coupled (h : loader.DataDir ids made dir) {e e' : Evaluator} (halike : e.Alike e')
    {d : Definition} (hdisabled : d.policy.isEnabled = false) (howns : loader.Owns d.data)
    (hid : ids d.data.identifier) (worker : Worker) (identity : Identity) (args : List String) :
    Dialogue.Coupled World.reply (Sides loader ids made dir) e.SameOutcome
      (e.tryEvaluate worker d identity args) (e'.tryEvaluate worker d identity args) := by
  rw [Evaluator.tryEvaluate_of_disabled hdisabled, Evaluator.tryEvaluate_of_disabled hdisabled]
  refine Evaluator.compute_coupled substitute_coupled ?_ halike worker identity args
  rintro _ ⟨values, rfl⟩
  exact h.save_coupled ⟨howns.path, howns.simple⟩ hid

end Loader.DataDir

namespace Evaluator

theorem run_tryEvaluate_of_disabled {d : Definition} (hdisabled : d.policy.isEnabled = false)
    (e : Evaluator) (worker : Worker) (identity : Identity) (args : List String) (world : World) :
    ∃ values, (world.run (e.tryEvaluate worker d identity args)).1.2.1 =
      { d with data := { d.data with values } } := by
  rw [tryEvaluate_of_disabled hdisabled]
  obtain ⟨data, hdata⟩ := (compute_ensures e worker d identity args).run World.reply world
  obtain ⟨values, cache, hevolves⟩ :=
    (compute_obeys e worker identity args d).ensures.run World.reply world
  refine ⟨values, ?_⟩
  rw [World.run]
  rw [hdata] at hevolves ⊢
  rw [(Definition.mk.inj hevolves).2.2.1]

end Evaluator

theorem Expansion.run_load {x : Expansion} {world world' : World} {result : Except LoadError Nat}
    {r : Registry} (h : world.run (x.loader.load x.registry) = ((result, r), world')) :
    world.run x.load = ((result, { x with registry := r }), world') := by
  rw [World.run] at h
  rw [World.run, Expansion.load, Dialogue.bind_eq, Dialogue.run_bind, h]
  rfl

namespace CommandLine

theorem RequesterOptions.identity_eq {r : RequesterOptions} (h : r.player = none ∨ r.id.isSome)
    (fresh fresh' : PlayerId) : r.identity fresh' = r.identity fresh := by
  rw [identity, identity]
  rcases h with hnone | hsome
  · rw [hnone]
  · obtain ⟨id, hid⟩ := Option.isSome_iff_exists.mp hsome
    rw [hid]
    rfl

theorem run_evalScript {x : Expansion} {identifier : String} {handle : Handle} {d : Definition}
    (hhandle : x.registry.handles.get? identifier = some handle)
    (hd : x.registry.definition? handle = some d) (identity : Identity) (args : List String)
    (world : World) :
    world.run (evalScript x identity identifier args) =
      let ((result, d', evaluator), world') := x.evaluated 0 d identity args world
      ((⟨0, [Evaluator.answer result]⟩,
        { x with evaluator, registry := x.registry.update handle d' }), world') := by
  have hget : x.registry.get? identifier = some d := (Registry.get?_of_handle hhandle).trans hd
  have hrun := x.run_evaluateHandle 0 handle d identity args world
  rw [World.run] at hrun
  rw [evalScript, hhandle, hget, World.run]
  simp only [Dialogue.bind_eq, Dialogue.run_bind, hrun]
  rfl

section Evaluating

variable {loader : Loader} {configuration : Configuration} {texts : Path → Except FileError String}
  {vals : String → Dict Datum} {made : FileSystem} {dir : Place} {now now' : Instant}
  {x x' : Expansion} {world world' : World}

open Loader Loader.DataDir

/-- What comes of the evaluation of a script in two registries that serve the same values. -/
structure SameStep (loader : Loader) (configuration : Configuration)
    (texts : Path → Except FileError String) (made : FileSystem) (dir : Place)
    (vals : String → Dict Datum) (now now' : Instant) (e : Evaluator)
    (after after' : (Outcome × Expansion) × World) : Prop where
  outcome : after'.1.1 = after.1.1
  succeeded : after.1.1.exit = 0
  evaluator : e.Alike after'.1.2.evaluator
  sides : Sides loader (loader.IsLoadable texts configuration) made dir after.2 after'.2
  serves : loader.Serves configuration texts vals now after.1.2.registry
  serves' : loader.Serves configuration texts vals now' after'.1.2.registry

/-- The same script goes the same way wherever the registries serve the same values. -/
theorem evalScript_same (hdir : loader.DataDir (loader.IsLoadable texts configuration) made dir)
    (hserves : loader.Serves configuration texts vals now x.registry)
    (hserves' : loader.Serves configuration texts vals now' x'.registry)
    (halike : x.evaluator.Alike x'.evaluator)
    (hsides : Sides loader (loader.IsLoadable texts configuration) made dir world world')
    {identifier : String} {entry : ScriptEntry} {template : String} {old : Dict Datum}
    (hentry : configuration.get? identifier = some entry)
    (hold : loader.Loadable texts identifier entry template old)
    (hpolicy : entry.policy now = .disabled) (hpolicy' : entry.policy now' = .disabled)
    (identity : Identity) (args : List String) :
    ∃ values, SameStep loader configuration texts made dir (withValues vals identifier values) now now'
      x.evaluator (world.run (evalScript x identity identifier args))
      (world'.run (evalScript x' identity identifier args)) := by
  let d := loader.loaded identifier entry template (vals identifier) now
  -- without a cache a loaded script does not tell when it was loaded
  have hsame : loader.loaded identifier entry template (vals identifier) now' = d := by
    simp only [d, loaded, hpolicy, hpolicy']
  have hget := (hserves identifier d).mpr ⟨entry, template, old, hentry, hold, rfl⟩
  have hget' := (hserves' identifier d).mpr ⟨entry, template, old, hentry, hold, hsame.symm⟩
  obtain ⟨handle, hhandle, hd⟩ := Registry.get?_eq_some_iff.mp hget
  obtain ⟨handle', hhandle', hd'⟩ := Registry.get?_eq_some_iff.mp hget'
  have hdisabled : d.policy.isEnabled = false :=
    CachePolicy.isEnabled_eq_false.mpr hpolicy
  obtain ⟨hloadable, hmade, -⟩ := hserves.owned hdir.simple hget
  have hid : loader.IsLoadable texts configuration d.data.identifier := hmade.owner ▸ hloadable
  have hcoupled := hdir.tryEvaluate_coupled halike hdisabled hmade.data hid 0 identity args
  obtain ⟨hoffered, hsides'⟩ := hcoupled world world' hsides
  obtain ⟨values, hvalues⟩ :=
    Evaluator.run_tryEvaluate_of_disabled hdisabled x.evaluator 0 identity args world
  refine ⟨values, ?_⟩
  rw [run_evalScript hhandle hd, run_evalScript hhandle' hd']
  refine ⟨?_, rfl, hoffered.evaluator, hsides', ?_, ?_⟩
  · exact congrArg (fun result => Outcome.mk 0 [Evaluator.answer result]) hoffered.result
  · have hupdated := hserves.update hhandle hd values
    rw [← hvalues] at hupdated
    exact hupdated
  · have hupdated := hserves'.update hhandle' hd' values
    have hdefinition : (world'.run (x'.evaluator.tryEvaluate 0 d identity args)).1.2.1 =
        (world.run (x.evaluator.tryEvaluate 0 d identity args)).1.2.1 := hoffered.definition
    rw [← hvalues, ← hdefinition] at hupdated
    exact hupdated

end Evaluating

namespace Invocation

variable (invocation : Invocation) (environment : Settings) (factory : Factory)

/-- The id for a player who has none does not matter, if the requester has an id or is nobody. -/
theorem process_eq (h : invocation.requester.player = none ∨ invocation.requester.id.isSome)
    (start : Start) (fresh : PlayerId) :
    invocation.process environment factory { start with fresh } =
      invocation.process environment factory start := by
  rw [process, process, Invocation.run, Invocation.run, RequesterOptions.identity_eq h start.fresh fresh]

/-- A process that loads its scripts and evaluates one of them saves all of them in the end. -/
theorem run_process
    (hrequester : invocation.requester.player = none ∨ invocation.requester.id.isSome) (start : Start)
    (fresh : PlayerId) {world world' : World} {n : Nat} {r : Registry}
    (hload : world.run ((invocation.loader environment).load {}) = ((.ok n, r), world')) :
    let x : Expansion := { invocation.expansion environment factory fresh with registry := r }
    let after := world'.run
      (evalScript x (invocation.requester.identity fresh) start.identifier start.args)
    after.1.1.exit = 0 →
    world.run (invocation.process environment factory start) =
      (after.1.1, (after.2.run after.1.2.registry.saveAll).2) := by
  intro x after hexit
  -- the parts of the process one after the other: the load, the evaluation, the save
  have hloaded : world.run (invocation.expansion environment factory fresh).load = _ :=
    Expansion.run_load hload
  rw [World.run] at hloaded
  rw [← invocation.process_eq environment factory hrequester start fresh, World.run]
  change Dialogue.run World.reply (Dialogue.bind (invocation.expansion environment factory
    fresh).load _) world = _
  rw [Dialogue.run_bind, hloaded]
  change Dialogue.run World.reply (Dialogue.bind (evalScript x
    (invocation.requester.identity fresh) start.identifier start.args) _) world' = _
  rw [Dialogue.run_bind]
  change Dialogue.run World.reply (if after.1.1.exit = 0 then saving after.1.1 after.1.2
    else pure after.1.1) after.2 = _
  rw [if_pos hexit, saving, Dialogue.bind_eq, Dialogue.run_bind]
  rfl

theorem run_serve (fresh : PlayerId) (calls : List (String × List String)) {world world' : World}
    {n : Nat} {r : Registry}
    (hload : world.run ((invocation.loader environment).load {}) = ((.ok n, r), world')) :
    world.run (invocation.serve environment factory fresh calls) =
      world'.run (evalAll (invocation.requester.identity fresh) calls
        { invocation.expansion environment factory fresh with registry := r }) := by
  have hloaded : world.run (invocation.expansion environment factory fresh).load = _ :=
    Expansion.run_load hload
  rw [World.run] at hloaded
  rw [World.run, serve, Dialogue.bind_eq, Dialogue.run_bind, hloaded]
  rfl

theorem run_serveAndSave (fresh : PlayerId) (calls : List (String × List String)) {world world' : World}
    {n : Nat} {r : Registry}
    (hload : world.run ((invocation.loader environment).load {}) = ((.ok n, r), world')) :
    world.run (invocation.serveAndSave environment factory fresh calls) =
      let ((outcomes, x), world'') := world'.run (evalAll (invocation.requester.identity fresh) calls
        { invocation.expansion environment factory fresh with registry := r })
      (outcomes, (world''.run x.registry.saveAll).2) := by
  rw [← invocation.run_serve environment factory fresh calls hload, World.run, serveAndSave]
  simp only [Dialogue.bind_eq, Dialogue.run_bind]
  rfl

/-- Without a call there is no outcome, whether or not the scripts can be loaded. -/
theorem run_serveAndSave_nil (fresh : PlayerId) (world : World) :
    (world.run (invocation.serveAndSave environment factory fresh [])).1 = [] := by
  rw [World.run, serveAndSave, serve]
  simp only [Dialogue.bind_eq, Dialogue.run_bind]
  generalize Dialogue.run World.reply (invocation.expansion environment factory fresh).load world = loaded
  obtain ⟨⟨result, x⟩, world'⟩ := loaded
  cases result <;> rfl

end Invocation

theorem run_evalAll_cons (identity : Identity) (identifier : String) (args : List String)
    (rest : List (String × List String)) (x : Expansion) (world : World) :
    world.run (evalAll identity ((identifier, args) :: rest) x) =
      let ((outcome, x), world) := world.run (evalScript x identity identifier args)
      let ((outcomes, x), world) := world.run (evalAll identity rest x)
      ((outcome :: outcomes, x), world) := by
  rw [World.run, evalAll]
  simp only [Dialogue.bind_eq, Dialogue.run_bind]
  rfl

end CommandLine

end PlaceholderScripts
