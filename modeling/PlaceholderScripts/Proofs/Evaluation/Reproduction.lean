import PlaceholderScripts.Proofs.Evaluation.Frame
import PlaceholderScripts.Proofs.Surroundings.Coupling

/-!
# The same evaluation elsewhere

An evaluation whose results are not kept depends on the definition and the call, on what the evaluator
knows of its host, and on the replies to substitutions and saves. The interpreter that runs it does not
count, as long as it was made from the same library, nor does anything else in the surroundings. So other
evaluators come to the same result elsewhere, and leave the same definition.
-/

namespace PlaceholderScripts

namespace Factory

def modules (factory : Factory) : Except CreationError (List Script.Module) :=
  instantiateAll factory.rounds [] factory.library.modules

theorem create_eq (factory : Factory) (serial : Nat) :
    factory.create serial = factory.modules.map fun modules => ⟨serial, modules⟩ := rfl

end Factory

namespace Pool

def Sound (pool : Pool) : Prop :=
  ∀ slot ∈ pool.slots, pool.factory.modules = .ok slot.2.modules

theorem sound_new (factory : Factory) : ({ factory } : Pool).Sound :=
  fun _ hslot => absurd hslot List.not_mem_nil

theorem Sound.insert {pool : Pool} (h : pool.Sound) {made : Interpreter}
    (hmade : pool.factory.modules = .ok made.modules) (worker : Worker) :
    (pool.insert worker made).Sound := by
  intro slot hslot
  rcases List.mem_append.mp hslot with hold | hnew
  · exact h slot (List.mem_filter.mp hold).1
  · rw [List.mem_singleton.mp hnew]
    exact hmade

theorem Sound.acquire {pool : Pool} (h : pool.Sound) (worker : Worker) (defaults : Bindings) :
    (pool.acquire worker defaults).2.Sound ∧
      (pool.acquire worker defaults).2.factory = pool.factory ∧
      match pool.factory.modules with
      | .ok modules => ∃ serial, (pool.acquire worker defaults).1 =
          .ok ⟨⟨serial, modules⟩, pool.factory.rounds, boundVariables defaults⟩
      | .error e => (pool.acquire worker defaults).1 = .error e := by
  rw [Pool.acquire]
  cases hthere : pool.interpreter? worker with
  | some interpreter =>
    obtain ⟨before, behind, hslots, -⟩ := List.lookup_eq_some_iff.mp hthere
    have hslot : (worker, interpreter) ∈ pool.slots := by
      rw [hslots]
      exact List.mem_append_right _ List.mem_cons_self
    rw [h _ hslot]
    exact ⟨h, rfl, interpreter.serial, rfl⟩
  | none =>
    rw [create, Factory.create_eq]
    cases hmodules : pool.factory.modules with
    | error e => exact ⟨h, rfl, rfl⟩
    | ok modules => exact ⟨Sound.insert h hmodules worker, rfl, pool.next, rfl⟩

end Pool

structure Evaluator.Alike (e e' : Evaluator) : Prop where
  server : e'.server = e.server
  expansion : e'.expansion = e.expansion
  factory : e'.pool.factory = e.pool.factory
  sound : e.pool.Sound
  sound' : e'.pool.Sound

namespace Evaluator

theorem alike_new (factory : Factory) (server : Server) :
    Alike (.new factory server) (.new factory server) :=
  ⟨rfl, rfl, rfl, Pool.sound_new _, Pool.sound_new _⟩

theorem Alike.refl {e : Evaluator} (h : e.pool.Sound) : e.Alike e := ⟨rfl, rfl, rfl, h, h⟩

theorem Alike.trans {e e' e'' : Evaluator} (h : e.Alike e') (h' : e'.Alike e'') : e.Alike e'' :=
  ⟨h'.server.trans h.server, h'.expansion.trans h.expansion, h'.factory.trans h.factory, h.sound,
    h'.sound'⟩

structure SameOutcome (e : Evaluator) (r r' : Except EvaluationError String × Definition × Evaluator) :
    Prop where
  result : r'.1 = r.1
  definition : r'.2.1 = r.2.1
  evaluator : e.Alike r'.2.2

section Coupled

variable {σ : Type} {reply : σ → (q : Request) → q.Reply × σ} {R : σ → σ → Prop} {d : Definition}
  (hsubstitute : ∀ form identity text,
    Dialogue.Coupled reply R Eq (Program.substitute form identity text)
      (Program.substitute form identity text))
  (hsave : ∀ store, d.data.Evolves store → Dialogue.Coupled reply R Eq store.save store.save)

include hsubstitute

/-- What asks for nothing but substitutions goes the same way everywhere. -/
theorem coupled_of_substitutions {α : Type} {program : Program α}
    (h : program.Obeys (fun q => ∃ form identity text, q = .substitute form identity text)
      fun _ => True) :
    Dialogue.Coupled reply R Eq program program := by
  refine h.coupled fun q hq => ?_
  obtain ⟨form, identity, text, rfl⟩ := hq
  exact hsubstitute form identity text

include hsave

theorem reply_coupled (store : Store) (call : Script.HostCall) (h : d.data.Evolves store) :
    Dialogue.Coupled reply R (fun r r' => r = r' ∧ d.data.Evolves r.2) (Evaluator.reply store call)
      (Evaluator.reply store call) := by
  obtain ⟨values, rfl⟩ := h
  cases call with
  | get key => exact .done ⟨rfl, values, rfl⟩
  | set key value => exact .done ⟨rfl, _, rfl⟩
  | remove key => exact .done ⟨rfl, _, rfl⟩
  | clear => exact .done ⟨rfl, _, rfl⟩
  | keys => exact .done ⟨rfl, values, rfl⟩
  | save =>
    refine (hsave { d.data with values } ⟨values, rfl⟩).bind fun saved saved' heq => ?_
    subst heq
    exact .done ⟨rfl, values, rfl⟩
  | substitute form identity text =>
    refine (hsubstitute form identity text).bind fun text text' heq => ?_
    subst heq
    exact .done ⟨rfl, values, rfl⟩

variable {e e' : Evaluator}

/-- A script that is executed goes the same way, also where it fails. -/
theorem execute_coupled (h : Alike e e') (worker : Worker) (identity : Identity) (args : List String)
    (script : String) :
    Dialogue.Coupled reply R e.SameOutcome (e.execute worker d identity args script)
      (e'.execute worker d identity args script) := by
  have hbindings : e'.defaultBindings d = e.defaultBindings d := by
    simp only [defaultBindings, h.server, h.expansion]
  obtain ⟨-, -, hacquired⟩ := h.sound.acquire worker (e.defaultBindings d)
  obtain ⟨hsound', hfactory', hacquired'⟩ := h.sound'.acquire worker (e.defaultBindings d)
  rw [h.factory] at hfactory' hacquired'
  rw [execute, execute, hbindings]
  generalize e.pool.acquire worker (e.defaultBindings d) = acquired at hacquired
  generalize e'.pool.acquire worker (e.defaultBindings d) = acquired' at hsound' hfactory' hacquired'
  obtain ⟨context, pool⟩ := acquired
  obtain ⟨context', pool'⟩ := acquired'
  have hafter : e.Alike { e' with pool := pool' } :=
    ⟨h.server, h.expansion, hfactory', h.sound, hsound'⟩
  cases hmodules : e.pool.factory.modules with
  | error cause =>
    rw [hmodules] at hacquired hacquired'
    obtain rfl := hacquired
    obtain rfl := hacquired'
    exact .done ⟨rfl, rfl, hafter⟩
  | ok modules =>
    rw [hmodules] at hacquired hacquired'
    obtain ⟨serial, rfl⟩ := hacquired
    obtain ⟨serial', rfl⟩ := hacquired'
    -- the contexts differ in the number of the interpreter, which no execution looks at
    refine Dialogue.Coupled.bind (Dialogue.coupled_relay
      (reply_coupled hsubstitute hsave) _ ⟨d.data.values, rfl⟩) fun executed executed' heq => ?_
    obtain ⟨rfl, -⟩ := heq
    obtain ⟨result, data⟩ := executed
    cases result with
    | error cause => exact .done ⟨rfl, rfl, hafter⟩
    | ok v =>
      have htext := coupled_of_substitutions hsubstitute
        (resultText_obeys (fun _ _ _ => ⟨_, _, _, rfl⟩) identity v)
      refine htext.bind fun text text' heq => ?_
      subst heq
      cases text with
      | error cause => exact .done ⟨rfl, rfl, hafter⟩
      | ok text => exact .done ⟨rfl, rfl, hafter⟩

theorem compute_coupled (h : Alike e e') (worker : Worker) (identity : Identity)
    (args : List String) :
    Dialogue.Coupled reply R e.SameOutcome (e.compute worker d identity args)
      (e'.compute worker d identity args) := by
  have hscan := coupled_of_substitutions hsubstitute
    (scan_obeys (fun _ _ _ => ⟨_, _, _, rfl⟩) identity d.template)
  refine hscan.bind fun scanned scanned' heq => ?_
  subst heq
  cases scanned with
  | error cause => exact .done ⟨rfl, rfl, h⟩
  | ok script =>
    have hargs := coupled_of_substitutions hsubstitute
      (substituteAll_obeys (fun _ _ _ => ⟨_, _, _, rfl⟩) identity args)
    refine hargs.bind fun substituted substituted' heq => ?_
    subst heq
    cases substituted with
    | error cause => exact .done ⟨rfl, rfl, h⟩
    | ok args => exact execute_coupled hsubstitute hsave h worker identity args script

end Coupled

/-- An evaluation under a disabled policy does nothing but compute. -/
theorem tryEvaluate_of_disabled {d : Definition} (h : d.policy.isEnabled = false) (e : Evaluator)
    (worker : Worker) (identity : Identity) (args : List String) :
    e.tryEvaluate worker d identity args = e.compute worker d identity args := by
  have hkeys : cacheKeys? d identity args = none := by
    rw [cacheKeys?, h]
    rfl
  rw [tryEvaluate, hkeys]
  change (e.compute worker d identity args).bind _ = _
  refine (congrArg _ (funext fun computed => ?_)).trans (Dialogue.bind_done _)
  obtain ⟨result, d', e'⟩ := computed
  cases result <;> rfl

end Evaluator

end PlaceholderScripts
