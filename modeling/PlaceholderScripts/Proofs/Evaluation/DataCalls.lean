import PlaceholderScripts.Proofs.Evaluation.Moments

/-!
# Calls on the data of a script

A script reaches its data under the name of the data and as a property of the placeholder. Whatever it calls on
the data is answered from the store of the evaluation, and what it does to the store is done there: no variable
and nothing else of the script is touched, and both ways come to the same.
-/

namespace PlaceholderScripts

open Script (Run Value State Caller Frame Expr Link Position Location HostObject Fault Signal)
open Script.Evaluate

/-- A function on the data with its arguments, saving apart. -/
inductive DataCall where
  | get (key : String)
  | getOr (key : String) (default_ : Value)
  | set (key : String) (v : Value)
  | contains (key : String)
  | remove (key : String)
  | clear
  | keys

namespace DataCall

/-- The name under which scripts call the function. -/
def name : DataCall → String
  | .get _ => "get"
  | .getOr _ _ => "get_or"
  | .set _ _ => "set"
  | .contains _ => "exists"
  | .remove _ => "remove"
  | .clear => "clear"
  | .keys => "keys"

def arguments : DataCall → List Value
  | .get key | .contains key | .remove key => [.text key]
  | .getOr key default_ => [.text key, default_]
  | .set key v => [.text key, v]
  | .clear | .keys => []

/-- What the call gives to the script. -/
def answer (store : Store) : DataCall → Except Fault Value
  | .get key | .remove key => .ok (HostObject.ofStored (store.get? key))
  | .getOr key default_ => .ok ((store.get? key).elim default_ .ofDatum)
  | .set key v =>
    match v.toDatum with
    | .ok _ => .ok .unit
    | .error type => .error (.thrown (.text (HostObject.notStorable key type)))
  | .contains key => .ok (.bool (store.get? key).isSome)
  | .clear => .ok .unit
  | .keys => .ok (.list (store.values.keys.map .text))

/-- The store behind the call. -/
def after (store : Store) : DataCall → Store
  | .set key v =>
    match v.toDatum with
    | .ok d => (store.set key d).2
    | .error _ => store
  | .remove key => (store.remove key).2
  | .clear => store.clear
  | .get _ | .getOr _ _ | .contains _ | .keys => store

def outcome (c : DataCall) (store : Store) (l : Location) : Except Signal Value :=
  (c.answer store).mapError fun fault => .error (.raised fault l)

theorem exists_function? (c : DataCall) : ∃ answer : HostObject.Answer,
    HostObject.data.function? c.name c.arguments = some answer ∧
      ∀ {σ : Type} (reply : σ → (q : Request) → q.Reply × σ) (store : Store) (surroundings : σ),
        Dialogue.run reply (Dialogue.relay Evaluator.reply answer store) surroundings =
          ((c.answer store, c.after store), surroundings) := by
  cases c with
  | getOr key default_ =>
    refine ⟨_, rfl, fun reply store surroundings => ?_⟩
    simp only [Dialogue.relay, Evaluator.reply, answer, after]
    cases store.get? key <;> rfl
  | set key v =>
    cases h : v.toDatum with
    | ok d =>
      refine ⟨.ask (.set key d) fun () => HostObject.answer .unit, ?_, fun reply store surroundings => ?_⟩
      · simp only [name, arguments, HostObject.function?, HostObject.dataFunction, h]
      · simp only [answer, after, h]
        rfl
    | error type =>
      refine ⟨HostObject.fail (HostObject.notStorable key type), ?_, fun reply store surroundings => ?_⟩
      · simp only [name, arguments, HostObject.function?, HostObject.dataFunction, h]
      · simp only [answer, after, h]
        rfl
  | _ => exact ⟨_, rfl, fun _ _ _ => rfl⟩

variable {σ : Type} {reply : σ → (q : Request) → q.Reply × σ} {m : Moment σ} {call : Caller} {f : Frame}

theorem run_callNative (c : DataCall) (p : Position) :
    m.run reply (callNative f c.name (.host .data :: c.arguments) p) =
      ((c.outcome m.store (f.locate p)).map fun v => { value := v }, { m with store := c.after m.store }) := by
  obtain ⟨hosted, hfunction, hruns⟩ := c.exists_function?
  have hbuiltin : Script.Builtin.call c.name (.host .data :: c.arguments) = none := by cases c <;> rfl
  have hasked : m.run reply (Run.host hosted) = (.ok (c.answer m.store), { m with store := c.after m.store }) := by
    rw [Moment.run_host, hruns]
  simp only [callNative, hbuiltin, hfunction]
  rw [Moment.run_bind_of_ok hasked, outcome]
  cases c.answer m.store <;> rfl

/-- The method of the data is that of the host, where the script has no function of its own. -/
theorem callMethod_data {c : DataCall} (hown : f.callee? c.name c.arguments.length = none) (p : Position) :
    callMethod call f (.host .data) c.name c.arguments p =
      callNative f c.name (.host .data :: c.arguments) p := by
  cases c <;>
  · simp only [callMethod, name, arguments, methodIn?] at hown ⊢
    rw [hown]
    rfl

end DataCall

namespace Script

/-- A way of a script to its data. -/
inductive DataHandle where
  | own (at_ : Position)
  | placeholder (at_ dataAt : Position)

namespace DataHandle

/-- The variable that the way begins at. -/
def root : DataHandle → String
  | .own _ => "Data"
  | .placeholder _ _ => "Placeholder"

def rootAt : DataHandle → Position
  | .own p | .placeholder p _ => p

/-- The way from the variable to the data. -/
def links : DataHandle → List Link
  | .own _ => []
  | .placeholder _ p => [.property "data" false p]

def steps : DataHandle → List Step
  | .own _ => []
  | .placeholder _ p => [.property "data" false p]

def call (handle : DataHandle) (name : String) (arguments : List Expr) (method whole : Position) : Expr :=
  .chain (.variable handle.root handle.rootAt) (handle.links ++ [.method name arguments false method]) whole

/-- Where the way begins. -/
def Starts : DataHandle → Value → Prop
  | .own _, v => v = .host .data
  | .placeholder _ _, v => ∃ identifier template, v = .host (.placeholder identifier template)

/-- The script still finds the beginning under its name. -/
def Held (handle : DataHandle) (state : State) : Prop := ∃ v, state.Holds handle.root v ∧ handle.Starts v

end DataHandle

end Script

namespace Moment

open Script

variable {σ : Type} {reply : σ → (q : Request) → q.Reply × σ} {m after : Moment σ} {call : Caller} {f : Frame}

theorem run_evalLinks (handle : DataHandle) {links : List Link} {steps : List Step}
    (h : m.run reply (evalLinks call f links) = (.ok steps, after)) :
    m.run reply (evalLinks call f (handle.links ++ links)) = (.ok (handle.steps ++ steps), after) := by
  cases handle with
  | own p => exact h
  | placeholder p q =>
    rw [DataHandle.links, List.singleton_append, evalLinks, evalLink, pure_bind, run_bind_of_ok h, run_pure]
    rfl

theorem run_follow {handle : DataHandle} {start : Value} (h : handle.Starts start) {name : String}
    {vs : List Value} (method : Position) :
    m.run reply (follow call f (handle.steps ++ [.method name vs false method]) start) =
      m.run reply do
        let r ← callMethod call f (.host .data) name vs method
        return (r.value, if handle.steps.isEmpty then r.changed else none) := by
  have hmethod : follow call f [.method name vs false method] (.host .data) = do
      let r ← callMethod call f (.host .data) name vs method
      return (r.value, r.changed) := by
    have hgoes : stops false (.host .data) = false := rfl
    rw [follow, hgoes, if_neg Bool.false_ne_true]
    simp only [follow, pure_bind]
  cases handle with
  | own p =>
    cases h
    rw [DataHandle.steps, List.nil_append, hmethod]
    rfl
  | placeholder p q =>
    obtain ⟨identifier, template, rfl⟩ := h
    have hgoes : stops false (.host (.placeholder identifier template)) = false := rfl
    have hdata : property? "data" (.host (.placeholder identifier template)) = some (.host .data) := rfl
    rw [DataHandle.steps, List.singleton_append, follow, hgoes, if_neg Bool.false_ne_true]
    · simp only [hdata, hmethod, bind_assoc, pure_bind]
      rfl
    · simp

theorem run_dataCall {handle : DataHandle} (c : DataCall) {arguments : List Expr}
    (harguments : m.run reply (evalAll call f arguments) = (.ok c.arguments, after))
    (hheld : handle.Held after.state) (hown : f.callee? c.name c.arguments.length = none) (method whole : Position) :
    m.run reply (eval call f (handle.call c.name arguments method whole)) =
      (c.outcome after.store (f.locate method), { after with store := c.after after.store }) := by
  obtain ⟨start, hholds, hstarts⟩ := hheld
  rw [DataHandle.call, eval, run_bind_of_ok (run_evalLinks handle (run_evalLinks_method c.name harguments method))]
  dsimp only
  rw [run_bind_of_ok (run_read hholds _)]
  have hcalled : after.run reply (follow call f (handle.steps ++ [.method c.name c.arguments false method]) start) =
      ((c.outcome after.store (f.locate method)).map fun v => (v, none),
        { after with store := c.after after.store }) := by
    rw [run_follow hstarts, DataCall.callMethod_data hown]
    have hnative := @DataCall.run_callNative σ reply after f c method
    cases h : c.outcome after.store (f.locate method) with
    | ok v =>
      rw [h] at hnative
      rw [run_bind_of_ok hnative, run_pure]
      simp [Except.map]
    | error e =>
      rw [h] at hnative
      exact run_bind_of_error hnative _
  cases h : c.outcome after.store (f.locate method) with
  | ok v =>
    rw [h] at hcalled
    rw [run_bind_of_ok hcalled]
    rfl
  | error e =>
    rw [h] at hcalled
    exact run_bind_of_error hcalled _

end Moment

end PlaceholderScripts
