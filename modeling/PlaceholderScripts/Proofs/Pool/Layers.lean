import Mathlib.Data.Finset.Card
import PlaceholderScripts.Proofs.Evaluation.Moments
import PlaceholderScripts.Proofs.History
import PlaceholderScripts.Proofs.Script.Effects

/-!
# Layers of bindings

Bindings are a map that keeps the order in which its names came. The bindings of a call are put over the defaults of
its context, so that a script finds the value of the call under a name that both have, and keeps finding it for as long
as it does not write the name. Nothing else is there: what earlier scripts have declared on the same interpreter is gone
with their contexts.
-/

namespace PlaceholderScripts

open Script (Value Variable State Frame Expr Run Signal Position Location HostCall)
open Script.Evaluate

namespace Bindings

variable {b : Bindings}

theorem keys_insertIn (name : String) (v : Value) (entries : List (String × Value)) :
    (insertIn name v entries).map Prod.fst =
      if name ∈ entries.map Prod.fst then entries.map Prod.fst else entries.map Prod.fst ++ [name] := by
  induction entries with
  | nil => rfl
  | cons e rest ih =>
    obtain ⟨other, w⟩ := e
    rw [insertIn]
    by_cases hname : other = name
    · simp [hname]
    · rw [if_neg hname, List.map_cons, List.map_cons, ih]
      by_cases hrest : name ∈ rest.map Prod.fst
      · rw [if_pos hrest, if_pos (List.mem_cons_of_mem _ hrest)]
      · rw [if_neg hrest, if_neg (List.not_mem_cons_of_ne_of_not_mem (Ne.symm hname) hrest)]
        rfl

theorem names_insert (b : Bindings) (name : String) (v : Value) :
    (b.insert name v).names = if name ∈ b.names then b.names else b.names ++ [name] :=
  keys_insertIn name v b.entries

theorem get?_insert (b : Bindings) (name other : String) (v : Value) :
    (b.insert name v).get? other = if other = name then some v else b.get? other := by
  obtain ⟨entries⟩ := b
  simp only [get?, insert]
  induction entries with
  | nil => rfl
  | cons e rest ih =>
    obtain ⟨first, w⟩ := e
    by_cases hfirst : first = name
    · subst hfirst
      by_cases hother : other = first <;> simp [insertIn, Entries.get?, hother]
    · by_cases hother : other = first
      · subst hother
        simp [insertIn, Entries.get?, hfirst]
      · simp [insertIn, Entries.get?, hfirst, hother, ih]

theorem nodup_insert (h : b.names.Nodup) (name : String) (v : Value) : (b.insert name v).names.Nodup := by
  rw [names_insert]
  split
  · exact h
  · next hnew => exact List.concat_eq_append ▸ h.concat hnew

/-- The bindings are the map that insertions of these pairs, one after the other, make. -/
structure Maps (b : Bindings) (pairs : List (String × Value)) : Prop where
  /-- The names stand in the order in which they were inserted first. -/
  ordered : b.names = (pairs.map Prod.fst).eraseDups
  distinct : b.names.Nodup
  /-- The value of a name is the last one that was inserted for it. -/
  latest : ∀ name v, b.get? name = some v ↔ Since (fun _ e => e = (name, v)) (fun e => e.1 ≠ name) pairs
  others : ∀ name, b.get? name = none ↔ name ∉ pairs.map Prod.fst
  counted : b.size = (pairs.map Prod.fst).toFinset.card

/-- Another insertion leaves the order, if the name is there already. -/
theorem Maps.insert {pairs : List (String × Value)} (h : b.Maps pairs) (last : String × Value) :
    (b.insert last.1 last.2).Maps (pairs ++ [last]) := by
  obtain ⟨name, v⟩ := last
  have hnames : (b.insert name v).names = ((pairs ++ [(name, v)]).map Prod.fst).eraseDups := by
    rw [names_insert, List.map_append, List.eraseDups_append, ← h.ordered]
    have hmem : name ∈ b.names ↔ name ∈ pairs.map Prod.fst := by rw [h.ordered, List.mem_eraseDups]
    by_cases hname : name ∈ pairs.map Prod.fst
    · rw [if_pos (hmem.mpr hname)]
      simp [List.removeAll, hname]
    · rw [if_neg (mt hmem.mp hname)]
      simp only [List.map_cons, List.map_nil, List.removeAll, List.filter_cons, List.filter_nil, List.elem_eq_mem,
        decide_eq_false hname]
      rfl
  have hdistinct := nodup_insert h.distinct name v
  refine ⟨hnames, hdistinct, fun other w => ?latest, fun other => ?others, ?counted⟩
  case latest =>
    rw [get?_insert, since_concat, ← h.latest]
    by_cases hother : other = name
    · simp [hother]
    · simp [hother, Ne.symm hother]
  case others =>
    rw [get?_insert]
    by_cases hother : other = name
    · simp [hother]
    · rw [if_neg hother, h.others]
      simp [hother]
  case counted =>
    have hsame : (b.insert name v).names.toFinset = ((pairs ++ [(name, v)]).map Prod.fst).toFinset := by
      ext other
      rw [List.mem_toFinset, hnames, List.mem_eraseDups, List.mem_toFinset]
    rw [← hsame, List.toFinset_card_of_nodup hdistinct]
    exact (List.length_map _).symm

end Bindings

namespace Script

def State.value? (state : State) (name : String) : Option Value :=
  (state.scope.find? fun x => x.name = name).map Variable.value

/-- What comes of reading a name. -/
def reading (found : Option Value) (name : String) (l : Location) : Except Signal Value :=
  match found with
  | some v => .ok v
  | none => .error (.error (.raised (.noVariable name) l))

end Script

structure Job where
  worker : Worker
  defaults : Bindings
  bindings : Bindings
  code : String

/-- Executes the script of a job on an interpreter that is made for it. -/
def Factory.perform (factory : Factory) (job : Job) :
    Script.Hosted (Except CreationError (Except ExecutionError Value)) :=
  match instantiateAll factory.rounds [] factory.library.modules with
  | .error e => return .error e
  | .ok modules => do
    let context : Context := ⟨⟨0, modules⟩, factory.rounds, Pool.boundVariables job.defaults⟩
    return .ok (← context.execute job.bindings job.code)

theorem Factory.perform_of_error {factory : Factory} {serial : Nat} {e : CreationError}
    (h : factory.create serial = .error e) (job : Job) : factory.perform job = .done (.error e) := by
  rw [create] at h
  cases hmodules : instantiateAll factory.rounds [] factory.library.modules with
  | error e' =>
    rw [hmodules] at h
    rw [perform, hmodules, Except.error.inj h]
    rfl
  | ok modules =>
    rw [hmodules] at h
    nomatch h

namespace Pool

/-- Gets a context for a job and executes the script on it. -/
def perform (pool : Pool) (job : Job) :
    Script.Hosted (Except CreationError (Except ExecutionError Value) × Pool) :=
  match pool.acquire job.worker job.defaults with
  | (.error e, pool) => return (.error e, pool)
  | (.ok context, pool) => do return (.ok (← context.execute job.bindings job.code), pool)

/-- Executes the scripts of jobs one after the other. -/
def performAll (pool : Pool) : List Job → Script.Hosted Pool
  | [] => return pool
  | job :: rest => do
    let (_, pool) ← pool.perform job
    pool.performAll rest

structure Stocked (pool : Pool) (factory : Factory) : Prop where
  factory_eq : pool.factory = factory
  made : ∀ slot ∈ pool.slots, ∃ serial, factory.create serial = .ok slot.2

variable {pool : Pool} {factory : Factory}

theorem Stocked.insert (h : pool.Stocked factory) {serial : Nat} {interpreter : Interpreter}
    (hmade : factory.create serial = .ok interpreter) (worker : Worker) :
    (pool.insert worker interpreter).Stocked factory where
  factory_eq := h.factory_eq
  made slot hslot := by
    rcases List.mem_append.mp hslot with hold | hnew
    · exact h.made slot (List.mem_filter.mp hold).1
    · exact ⟨serial, by rw [hmade, List.mem_singleton.mp hnew]⟩

/-- The context on an interpreter of the factory has the modules of any other. -/
theorem Stocked.execute_context (h : pool.Stocked factory) {serial : Nat} {interpreter : Interpreter}
    (hmade : factory.create serial = .ok interpreter) (job : Job) :
    ((pool.context interpreter job.defaults).execute job.bindings job.code).bind (fun r => .done (.ok r)) =
      factory.perform job := by
  rw [Factory.create] at hmade
  cases hmodules : Factory.instantiateAll factory.rounds [] factory.library.modules with
  | error e =>
    rw [hmodules] at hmade
    nomatch hmade
  | ok modules =>
    rw [hmodules] at hmade
    obtain rfl := Except.ok.inj hmade
    rw [Factory.perform, hmodules, ← h.factory_eq]
    rfl

/-- What comes of a job does not depend on the interpreters that are there already. -/
theorem Stocked.perform (h : pool.Stocked factory) (job : Job) :
    ∃ next : Pool, next.Stocked factory ∧ pool.perform job = (factory.perform job).bind fun r => .done (r, next) := by
  obtain rfl := h.factory_eq
  rw [Pool.perform, acquire]
  cases hthere : pool.interpreter? job.worker with
  | some interpreter =>
    obtain ⟨before, after, hslots, -⟩ := List.lookup_eq_some_iff.mp hthere
    obtain ⟨serial, hmade⟩ := h.made (job.worker, interpreter) (by simp [hslots])
    refine ⟨pool, h, ?_⟩
    rw [← h.execute_context hmade job, Dialogue.bind_assoc]
    rfl
  | none =>
    have hnext : ({ pool with next := pool.next + 1 } : Pool).Stocked pool.factory := ⟨rfl, h.made⟩
    rw [create]
    cases hmade : pool.factory.create pool.next with
    | error e =>
      refine ⟨_, hnext, ?_⟩
      rw [Factory.perform_of_error hmade]
      rfl
    | ok interpreter =>
      refine ⟨_, hnext.insert hmade job.worker, ?_⟩
      rw [← hnext.execute_context hmade job, Dialogue.bind_assoc]
      rfl

theorem Stocked.performAll (h : pool.Stocked factory) (jobs : List Job) :
    (pool.performAll jobs).Ensures fun next => next.Stocked factory := by
  induction jobs generalizing pool with
  | nil => exact h
  | cons job rest ih =>
    obtain ⟨next, hnext, hjob⟩ := h.perform job
    rw [Pool.performAll, hjob, Dialogue.bind_eq, Dialogue.bind_assoc]
    exact Dialogue.ensures_bind _ fun _ => ih hnext

/-- What comes of a job on the pool is what comes of it on a new one. -/
theorem Stocked.perform_eq (h : pool.Stocked factory) (job : Job) :
    Prod.fst <$> pool.perform job = Prod.fst <$> ({ factory } : Pool).perform job := by
  have hstart : ({ factory } : Pool).Stocked factory := ⟨rfl, nofun⟩
  obtain ⟨next, -, hjob⟩ := h.perform job
  obtain ⟨first, -, hfirst⟩ := hstart.perform job
  rw [hjob, hfirst, ← Dialogue.bind_eq, ← Dialogue.bind_eq, map_bind, map_bind]
  rfl

end Pool

namespace Context

variable {σ : Type} (host : σ → (q : HostCall) → q.Reply × σ)

def start (context : Context) (bindings : Bindings) : State where
  scope := Pool.boundVariables bindings ++ context.scope

/-- What the main part of a script can reach. -/
def frame (context : Context) (functions : List Script.Function) : Frame where
  units := [⟨none, functions⟩]
  modules := context.interpreter.modules
  rounds := context.rounds

end Context

end PlaceholderScripts
