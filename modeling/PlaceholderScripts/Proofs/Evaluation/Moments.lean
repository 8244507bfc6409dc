import PlaceholderScripts.Evaluation
import PlaceholderScripts.Proofs.Script.Rules

/-!
# Moments of evaluations

While its script is running an evaluation has the variables of the script, the data of the definition and the
surroundings. A part of the script leads from one such moment to another, with the evaluator for its host. What
does not ask the host leads from any moment to one with the same data and the same surroundings.
-/

namespace PlaceholderScripts

namespace Script

def State.Holds (state : State) (name : String) (v : Value) : Prop :=
  ∃ x, state.scope.find? (fun x => x.name = name) = some x ∧ Run.contents state.cells x.value = v

end Script

/-- A point of an evaluation at which its script is running. -/
structure Moment (σ : Type) where
  state : Script.State
  store : Store
  surroundings : σ

namespace Moment

open Script (Run Value Location)

variable {σ α β : Type} (reply : σ → (q : Request) → q.Reply × σ)

/-- Runs a part of the script with the evaluator for its host. -/
def run (m : Moment σ) (part : Run α) : Except Script.Signal α × Moment σ :=
  let ended := Dialogue.run reply (Dialogue.relay Evaluator.reply (part.run.run m.state) m.store)
    m.surroundings
  (ended.1.1.1, ⟨ended.1.1.2, ended.1.2, ended.2⟩)

variable {reply} {m after : Moment σ}

@[simp] theorem run_pure (m : Moment σ) (a : α) : m.run reply (pure a) = (.ok a, m) := rfl

/-- A sequence goes on where its first part gave a value, and ends with it otherwise. -/
theorem run_bind (m : Moment σ) (part : Run α) (k : α → Run β) :
    m.run reply (part >>= k) =
      match m.run reply part with
      | (.ok a, after) => after.run reply (k a)
      | (.error e, after) => (.error e, after) := by
  unfold run
  rw [ExceptT.run_bind, StateT.run_bind, Dialogue.bind_eq, Dialogue.relay_bind, Dialogue.run_bind]
  generalize Dialogue.run reply (Dialogue.relay Evaluator.reply (part.run.run m.state) m.store)
    m.surroundings = ended
  obtain ⟨⟨⟨result, state⟩, store⟩, surroundings⟩ := ended
  cases result <;> rfl

theorem run_bind_of_ok {part : Run α} {a : α} (h : m.run reply part = (.ok a, after)) (k : α → Run β) :
    m.run reply (part >>= k) = after.run reply (k a) := by
  rw [run_bind, h]

theorem run_bind_of_error {part : Run α} {e : Script.Signal} (h : m.run reply part = (.error e, after))
    (k : α → Run β) : m.run reply (part >>= k) = (.error e, after) := by
  rw [run_bind, h]

theorem run_of_ends {part : Run α} {outcome : Except Script.Signal α} {s : Script.State}
    (h : part.Ends m.state outcome s) : m.run reply part = (outcome, { m with state := s }) := by
  unfold run
  rw [h]
  rfl

theorem run_read {name : String} {v : Value} (h : m.state.Holds name v) (l : Location) :
    m.run reply (Run.read name l) = (.ok v, m) := by
  obtain ⟨x, hx, rfl⟩ := h
  exact run_of_ends (Run.ends_read hx l)

theorem run_host (d : Script.Hosted α) :
    m.run reply (Run.host d) =
      let ended := Dialogue.run reply (Dialogue.relay Evaluator.reply d m.store) m.surroundings
      (.ok ended.1.1, ⟨m.state, ended.1.2, ended.2⟩) := by
  have hhost : (Run.host d).run.run m.state = d.bind fun a => .done (.ok a, m.state) := by
    rw [Run.host, ExceptT.run_lift, StateT.run_map, StateT.run_lift, map_eq_pure_bind, Dialogue.bind_eq,
      Dialogue.bind_eq, Dialogue.bind_assoc]
    rfl
  unfold run
  rw [hhost, Dialogue.relay_bind, Dialogue.run_bind]
  rfl

section Expressions

open Script Script.Evaluate

variable {call : Caller} {f : Frame}

theorem run_evalAll_nil : m.run reply (evalAll call f []) = (.ok [], m) := by
  rw [evalAll, run_pure]

theorem run_evalAll_cons {e : Expr} {es : List Expr} {v : Value} {vs : List Value} {between : Moment σ}
    (h : m.run reply (eval call f e) = (.ok v, between))
    (hrest : between.run reply (evalAll call f es) = (.ok vs, after)) :
    m.run reply (evalAll call f (e :: es)) = (.ok (v :: vs), after) := by
  rw [evalAll, run_bind_of_ok h, run_bind_of_ok hrest, run_pure]

theorem run_evalLinks_method (name : String) {arguments : List Expr} {vs : List Value}
    (h : m.run reply (evalAll call f arguments) = (.ok vs, after)) (method : Position) :
    m.run reply (evalLinks call f [.method name arguments false method]) =
      (.ok [.method name vs false method], after) := by
  rw [evalLinks, evalLink, bind_assoc, run_bind_of_ok h, pure_bind, evalLinks, pure_bind, run_pure]

/-- A part of a variable's value, found by an index that is evaluated first. -/
theorem run_index {x : String} {key : Expr} {v index part : Value} {p q r : Position}
    (hkey : m.run reply (eval call f key) = (.ok index, after)) (hread : after.state.Holds x v)
    (hpart : Script.Part.get v index = .ok part) :
    m.run reply (eval call f (.chain (.variable x p) [.index key false q] r)) = (.ok part, after) := by
  have hlinks : m.run reply (evalLinks call f [.index key false q]) =
      (.ok [.index index false q key.start], after) := by
    rw [evalLinks, evalLink, bind_assoc, run_bind_of_ok hkey, pure_bind, evalLinks, pure_bind, run_pure]
  have hgoes : stops false v = false := rfl
  rw [eval, run_bind_of_ok hlinks]
  dsimp only
  rw [run_bind_of_ok (run_read hread _), follow, hgoes, if_neg Bool.false_ne_true, hpart]
  rfl

/-- The call of a public function of a module comes to what the body of the function comes to, or returns, where the
body asks nothing and leaves the shared variables. -/
theorem run_pathCall {mod : Script.Module} {g : Script.Function} {name : String} {depth : Nat} {arguments : List Expr}
    {first : Option String} {vs : List Value} {v : Value} {outcome : Except Script.Signal Value} {inner : State}
    {p q : Position} (harguments : m.run reply (evalArguments (callAt (depth + 1)) f arguments) = (.ok (first, vs), after))
    (hmodule : f.module? mod.name = some mod)
    (hfunction : Frame.functionIn name vs.length (mod.functions.filter (!·.isPrivate)) = some g)
    (hbody : (evalBody (callAt depth) (f.enter (some mod.name)) g.body).Ends
      { after.state with
        scope := parameterScope g.parameters vs
        self := none
        constants := mod.constants
        level := after.state.level + 1 } outcome inner)
    (hcells : inner.cells = after.state.cells) (houtcome : outcome = .ok v ∨ outcome = .error (.returned v)) :
    m.run reply (eval (callAt (depth + 1)) f (.pathCall [mod.name] name arguments q p)) = (.ok v, after) := by
  have hfinal : (conclude ⟨some mod.name, g⟩ (f.locate p) outcome).Ends after.state (.ok v) after.state := by
    rcases houtcome with rfl | rfl
    · exact Run.ends_pure _ _
    · exact Run.ends_pure _ _
  rw [eval, run_bind_of_ok harguments]
  exact run_of_ends (ends_callPath hmodule hfunction hbody hcells hfinal)

end Expressions

end Moment

namespace Evaluator

open Script.Evaluate (eval callAt)

/-- A script finds the arguments under their name, whatever is bound besides. -/
theorem find?_args (identity : Identity) (args : List String) (others : List Script.Variable) :
    (Pool.boundVariables (callBindings identity args) ++ others).find? (fun v => v.name = "args") =
      some { name := "args", value := .list (args.map .text) } := by
  cases honline : identity.onlinePlayer? <;>
    simp [callBindings, honline, Bindings.ofList, Bindings.insert, Bindings.insertIn, Bindings.empty,
      Pool.boundVariables]

/-- A call binds its arguments and the handles of its requester, and leaves all other names alone. -/
theorem find?_of_unbound (identity : Identity) (args : List String) (others : List Script.Variable) (name : String)
    (h : name ∉ ["args", "BukkitPlayer", "Player", "OfflinePlayer"]) :
    (Pool.boundVariables (callBindings identity args) ++ others).find? (fun v => v.name = name) =
      others.find? (fun v => v.name = name) := by
  have hnone : (Pool.boundVariables (callBindings identity args)).find? (fun v => v.name = name) = none := by
    simp only [List.mem_cons, List.not_mem_nil, or_false, not_or, ← ne_eq] at h
    obtain ⟨hargs, hbukkit, hplayer, hoffline⟩ := h
    cases honline : identity.onlinePlayer? <;>
      simp [callBindings, honline, Bindings.ofList, Bindings.insert, Bindings.insertIn, Bindings.empty,
        Pool.boundVariables, hargs.symm, hbukkit.symm, hplayer.symm, hoffline.symm]
  rw [List.find?_append, hnone, Option.none_or]

/-- The variables with which the script of a definition begins. -/
def startState (evaluator : Evaluator) (d : Definition) (identity : Identity) (args : List String) : Script.State where
  scope := Pool.boundVariables (callBindings identity args) ++ Pool.boundVariables (evaluator.defaultBindings d)

theorem scope_of_acquire {pool pool' : Pool} {worker : Worker} {defaults : Bindings} {context : Context}
    (h : pool.acquire worker defaults = (.ok context, pool')) :
    context.scope = Pool.boundVariables defaults := by
  unfold Pool.acquire at h
  split at h
  · cases h
    rfl
  · split at h
    · cases h
      rfl
    · cases h

/-- The execution of a script that consists of an expression and comes to unit. -/
theorem run_execute_unit {σ : Type} {reply : σ → (q : Request) → q.Reply × σ} {evaluator : Evaluator} {worker : Worker}
    {d : Definition} {identity : Identity} {args : List String} {code : String} {e : Script.Expr}
    {context : Context} {pool : Pool} {surroundings : σ} {after : Moment σ}
    (hacquire : evaluator.pool.acquire worker (evaluator.defaultBindings d) = (.ok context, pool))
    (hparse : Script.parse code = .ok ⟨[], [e]⟩)
    (h : Moment.run reply ⟨evaluator.startState d identity args, d.data, surroundings⟩
      (eval (callAt Script.callDepth)
        { units := [⟨none, []⟩], modules := context.interpreter.modules, rounds := context.rounds } e) =
      (.ok .unit, after)) :
    Dialogue.run reply (evaluator.execute worker d identity args code) surroundings =
      ((.ok "", { d with data := after.store }, { evaluator with pool }), after.surroundings) := by
  obtain ⟨hresult, rfl⟩ := Prod.mk.inj h
  rw [startState, ← scope_of_acquire hacquire] at hresult ⊢
  unfold execute
  rw [hacquire]
  simp only [Context.execute, Script.execute, hparse, Script.ParsedScript.runWith, Script.Evaluate.evalBody,
    Dialogue.bind_eq, Dialogue.relay_bind, Dialogue.run_bind, Dialogue.pure_eq_done, Dialogue.relay, Dialogue.run_done,
    hresult]
  rfl

end Evaluator

end PlaceholderScripts
