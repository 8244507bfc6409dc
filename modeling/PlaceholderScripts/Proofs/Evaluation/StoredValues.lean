import PlaceholderScripts.Proofs.Evaluation.DataCalls
import PlaceholderScripts.Proofs.Script.Conversion

/-!
# Stored values in scripts

A script that reads a value and stores what it has read leaves the data as they were. What is there is found by
every call that looks for it, also where it is null, and what cannot be stored is refused.
-/

namespace PlaceholderScripts

open Script (Value State Caller Frame Expr Position HostObject DataHandle)
open Script.Evaluate

theorem Store.set_of_get? {store : Store} {key : String} {d : Datum} (h : store.get? key = some d) :
    (store.set key d).2 = store := by
  rw [Store.set, Dict.insert_get? h]

namespace DataCall

variable {store : Store} {key : String}

theorem set_ofDatum {d : Datum} (hget : store.get? key = some d) (hexact : d.Exact) :
    (set key (.ofDatum d)).answer store = .ok .unit ∧ (set key (.ofDatum d)).after store = store := by
  simp only [answer, after, hexact.toDatum_ofDatum, Store.set_of_get? hget, and_self]

theorem getOr_of_get? {d : Datum} (hget : store.get? key = some d) (default_ : Value) :
    (getOr key default_).answer store = .ok (.ofDatum d) := by
  rw [answer, hget, Option.elim_some]

variable (store key) in
theorem set_of_storable {v : Value} (h : v.Storable) :
    ∃ d, v.toDatum = .ok d ∧ (set key v).answer store = .ok .unit ∧
      (set key v).after store = (store.set key d).2 := by
  obtain ⟨d, hdatum⟩ := (Value.exists_toDatum_iff v).mpr h
  refine ⟨d, hdatum, ?_, ?_⟩
  · simp only [answer, hdatum]
  · simp only [after, hdatum]

variable (store key) in
theorem set_of_not_storable {v : Value} (h : ¬ v.Storable) :
    ∃ type, v.toDatum = .error type ∧
      (set key v).answer store = .error (.thrown (.text (HostObject.notStorable key type))) ∧
      (set key v).after store = store := by
  cases hdatum : v.toDatum with
  | ok d => exact absurd ((Value.exists_toDatum_iff v).mp ⟨d, hdatum⟩) h
  | error type =>
    refine ⟨type, rfl, ?_, ?_⟩
    · simp only [answer, hdatum]
    · simp only [after, hdatum]

end DataCall

namespace Moment

variable {σ : Type} {reply : σ → (q : Request) → q.Reply × σ} {m after : Moment σ} {call : Caller} {f : Frame}
  {handle handle' : DataHandle} {key key' : Expr} {k : String}

/-- Here the data can be called with an expression that comes to a key and touches nothing. The script has no
functions under the names of those of the data. -/
structure CallsData (m : Moment σ) (reply : σ → (q : Request) → q.Reply × σ) (call : Caller) (f : Frame)
    (handle : DataHandle) (key : Expr) (k : String) : Prop where
  unowned : ∀ c : DataCall, f.callee? c.name c.arguments.length = none
  held : handle.Held m.state
  reads : m.run reply (eval call f key) = (.ok (.text k), m)

namespace CallsData

variable (h : m.CallsData reply call f handle key k)
include h

theorem run_get (p q : Position) :
    m.run reply (eval call f (handle.call "get" [key] p q)) = (.ok (HostObject.ofStored (m.store.get? k)), m) :=
  run_dataCall (.get k) (run_evalAll_cons h.reads run_evalAll_nil) h.held (h.unowned (.get k)) p q

theorem run_remove (p q : Position) :
    m.run reply (eval call f (handle.call "remove" [key] p q)) =
      (.ok (HostObject.ofStored (m.store.get? k)), { m with store := (m.store.remove k).2 }) :=
  run_dataCall (.remove k) (run_evalAll_cons h.reads run_evalAll_nil) h.held (h.unowned (.remove k)) p q

/-- A call with the key and a value, whose evaluation comes in between. -/
theorem run_keyed (c : DataCall) {e : Expr} {v : Value} (hc : c.arguments = [.text k, v])
    (he : m.run reply (eval call f e) = (.ok v, after)) (hheld : handle.Held after.state) (p q : Position) :
    m.run reply (eval call f (handle.call c.name [key, e] p q)) =
      (c.outcome after.store (f.locate p), { after with store := c.after after.store }) := by
  refine run_dataCall c ?_ hheld (h.unowned c) p q
  rw [hc]
  exact run_evalAll_cons h.reads (run_evalAll_cons he run_evalAll_nil)

/-- Storing what was read, through the same handle or the other one. -/
theorem run_rewriting (h' : m.CallsData reply call f handle' key' k) {d : Datum} (hget : m.store.get? k = some d)
    (hexact : d.Exact) (p q r s : Position) :
    m.run reply (eval call f (handle.call "set" [key, handle'.call "get" [key'] p q] r s)) = (.ok .unit, m) := by
  have hread := h'.run_get p q
  rw [hget] at hread
  have hset := h.run_keyed (.set k (.ofDatum d)) rfl hread h.held r s
  obtain ⟨hanswer, hafter⟩ := DataCall.set_ofDatum hget hexact
  rw [DataCall.outcome, hanswer, hafter] at hset
  exact hset

end CallsData

end Moment

namespace Evaluator

variable {σ : Type} {reply : σ → (q : Request) → q.Reply × σ}

theorem held_startState (evaluator : Evaluator) (d : Definition) (identity : Identity) (args : List String)
    (handle : DataHandle) : handle.Held (evaluator.startState d identity args) := by
  have hfound := find?_of_unbound identity args (Pool.boundVariables (evaluator.defaultBindings d))
  cases handle with
  | own p => exact ⟨.host .data, ⟨_, hfound "Data" (by decide), rfl⟩, rfl⟩
  | placeholder p q =>
    exact ⟨.host (.placeholder d.identifier d.template), ⟨_, hfound "Placeholder" (by decide), rfl⟩, ⟨_, _, rfl⟩⟩

/-- The expression with which scripts read their first argument. -/
def IsFirstArgument (e : Expr) : Prop :=
  ∃ p q r s, e = .chain (.variable "args" p) [.index (.literal (.int 0) q) false r] s

theorem run_firstArgument (evaluator : Evaluator) (d : Definition) (identity : Identity) (key : String)
    (args : List String) (surroundings : σ) (call : Caller) (f : Frame) {e : Expr} (h : IsFirstArgument e) :
    let m : Moment σ := ⟨evaluator.startState d identity (key :: args), d.data, surroundings⟩
    m.run reply (eval call f e) = (.ok (.text key), m) := by
  intro m
  obtain ⟨p, q, r, s, rfl⟩ := h
  have hargs : m.state.Holds "args" (.list (.text key :: args.map .text)) :=
    ⟨_, find?_args identity (key :: args) _, rfl⟩
  have hzero : m.run reply (eval call f (.literal (.int 0) q)) = (.ok (.int 0), m) := by
    rw [eval, Moment.run_pure]
    rfl
  refine Moment.run_index hzero hargs ?_
  simp [Script.Part.get, Script.Part.place, Script.Builtin.place?, Except.map]

def rewriting : String := "Data.set(args[0], Data.get(args[0]))"

theorem parse_rewriting : ∃ p q key key' at_ at_' whole whole', IsFirstArgument key ∧ IsFirstArgument key' ∧
    Script.parse rewriting = .ok ⟨[], [(DataHandle.own p).call "set"
      [key, (DataHandle.own q).call "get" [key'] at_' whole'] at_ whole]⟩ :=
  ⟨_, _, _, _, _, _, _, _, ⟨_, _, _, _, rfl⟩, ⟨_, _, _, _, rfl⟩, rfl⟩

variable (reply) in
/-- The functions of the data are not hidden from a script without functions. -/
theorem callsData_start (evaluator : Evaluator) (d : Definition) (identity : Identity) (key : String)
    (args : List String) (surroundings : σ) (call : Caller) (modules : List Script.Module) (rounds : Nat)
    (handle : DataHandle) {e : Expr} (he : IsFirstArgument e) :
    Moment.CallsData (σ := σ) ⟨evaluator.startState d identity (key :: args), d.data, surroundings⟩ reply call
      { units := [⟨none, []⟩], modules, rounds } handle e key where
  unowned _ := rfl
  held := held_startState evaluator d identity (key :: args) handle
  reads := run_firstArgument evaluator d identity key args surroundings call _ he

/-- Values survive scripts. The execution of a script that stores what it reads leaves the whole definition as it
was. And wherever the data are called in a script, through either handle: storing what was read changes nothing; a
value that is there is what a call with a default gives; removing gives what reading would have given; and a value
is refused exactly if there is a part in it that cannot be stored. -/
theorem stored_values_survive (reply : σ → (q : Request) → q.Reply × σ) :
    (∀ (evaluator : Evaluator) worker (d : Definition) identity key args surroundings context pool value,
      evaluator.pool.acquire worker (evaluator.defaultBindings d) = (.ok context, pool) →
      d.data.get? key = some value → value.Exact →
        Dialogue.run reply (evaluator.execute worker d identity (key :: args) rewriting) surroundings =
          ((.ok "", d, { evaluator with pool }), surroundings)) ∧
    ∀ (m : Moment σ) call f handle handle' key key' k,
      m.CallsData reply call f handle key k → m.CallsData reply call f handle' key' k → ∀ p q r s,
      (∀ d, m.store.get? k = some d → d.Exact →
        m.run reply (eval call f (handle.call "set" [key, handle'.call "get" [key'] p q] r s)) = (.ok .unit, m)) ∧
      (∀ default_ v after, m.run reply (eval call f default_) = (.ok v, after) → handle.Held after.state →
        ∀ d, after.store.get? k = some d →
          m.run reply (eval call f (handle.call "get_or" [key, default_] p q)) = (.ok (.ofDatum d), after)) ∧
      (m.run reply (eval call f (handle.call "get" [key] p q)) = (.ok (HostObject.ofStored (m.store.get? k)), m) ∧
        m.run reply (eval call f (handle'.call "remove" [key'] r s)) =
          (.ok (HostObject.ofStored (m.store.get? k)), { m with store := (m.store.remove k).2 })) ∧
      (∀ e v after, m.run reply (eval call f e) = (.ok v, after) → handle.Held after.state →
        (v.Storable → ∃ d, v.toDatum = .ok d ∧ m.run reply (eval call f (handle.call "set" [key, e] p q)) =
          (.ok .unit, { after with store := (after.store.set k d).2 })) ∧
        (¬ v.Storable → ∃ type, v.toDatum = .error type ∧
          m.run reply (eval call f (handle.call "set" [key, e] p q)) =
            (.error (.error (.raised (.thrown (.text (HostObject.notStorable k type))) (f.locate p))), after))) := by
  refine ⟨?executed, fun m call f handle handle' key key' k h h' p q r s => ⟨?rewritten, ?found, ?removed, ?refused⟩⟩
  case executed =>
    intro evaluator worker d identity key args surroundings context pool value hacquire hget hexact
    obtain ⟨p, q, _, _, _, _, _, _, hkey, hkey', hparse⟩ := parse_rewriting
    have hcalls := callsData_start reply evaluator d identity key args surroundings
      (callAt Script.callDepth) context.interpreter.modules context.rounds (.own p) hkey
    have hcalls' := callsData_start reply evaluator d identity key args surroundings
      (callAt Script.callDepth) context.interpreter.modules context.rounds (.own q) hkey'
    exact run_execute_unit hacquire hparse (hcalls.run_rewriting hcalls' hget hexact _ _ _ _)
  case rewritten => exact fun d hget hexact => h.run_rewriting h' hget hexact p q r s
  case found =>
    intro default_ v after hdefault hheld d hget
    have hfound := h.run_keyed (.getOr k v) rfl hdefault hheld p q
    rw [DataCall.outcome, DataCall.getOr_of_get? hget] at hfound
    exact hfound
  case removed => exact ⟨h.run_get p q, h'.run_remove r s⟩
  case refused =>
    intro e v after he hheld
    have hset := h.run_keyed (.set k v) rfl he hheld p q
    constructor
    · intro hstorable
      obtain ⟨d, hdatum, hanswer, hafter⟩ := DataCall.set_of_storable after.store k hstorable
      rw [DataCall.outcome, hanswer, hafter] at hset
      exact ⟨d, hdatum, hset⟩
    · intro hnot
      obtain ⟨type, hdatum, hanswer, hafter⟩ := DataCall.set_of_not_storable after.store k hnot
      rw [DataCall.outcome, hanswer, hafter] at hset
      exact ⟨type, hdatum, hset⟩

def nested : Datum := .list [.null, .float ⟨0x4008000000000000⟩, .int (-5), .map [("deep", .list [.bool true, .null])]]

def keepsNested : Definition :=
  { Definition.ephemeral "keeping" rewriting with
    data := { Store.inMemory "keeping" with values := Dict.empty.insert "nested" nested } }

/-- The data are read under the name of the data and written through the placeholder. -/
theorem stored_values_survive_nested :
    let evaluator : Evaluator := .new { library := ⟨[]⟩, rounds := 10 } {}
    let world : World := ⟨⟨[], []⟩, .zero, SubstitutionTable.service .empty⟩
    let m : Moment World := ⟨evaluator.startState keepsNested .anonymous ["nested"], keepsNested.data, world⟩
    let value (e : Expr) := m.run World.reply (eval (callAt 1) { units := [⟨none, []⟩], modules := [], rounds := 10 } e)
    let key : Expr := .chain (.variable "args" {}) [.index (.literal (.int 0) {}) false {}] {}
    let written : DataHandle := .placeholder {} {}
    let read : DataHandle := .own {}
    nested.Exact ∧ ¬ (Value.host .data).Storable ∧
      (∃ pool, Dialogue.run World.reply (evaluator.execute 0 keepsNested .anonymous ["nested"] rewriting) world =
        ((.ok "", keepsNested, { evaluator with pool }), world)) ∧
      value (written.call "set" [key, read.call "get" [key] {} {}] {} {}) = (.ok .unit, m) ∧
      value (written.call "get_or" [key, .literal (.int 7) {}] {} {}) = (.ok (.ofDatum nested), m) ∧
      value (read.call "remove" [key] {} {}) =
        (.ok (.ofDatum nested), { m with store := (m.store.remove "nested").2 }) ∧
      value (written.call "set" [key, .literal (.int 7) {}] {} {}) =
        (.ok .unit, { m with store := (m.store.set "nested" (.int 7)).2 }) ∧
      ∃ e, value (written.call "set" [key, .variable "Data" {}] {} {}) = (.error e, m) := by
  intro evaluator world m value key written read
  have hkey : IsFirstArgument key := ⟨_, _, _, _, rfl⟩
  have hcalls (handle : DataHandle) : m.CallsData World.reply (callAt 1)
      { units := [⟨none, []⟩], modules := [], rounds := 10 } handle key "nested" :=
    callsData_start World.reply evaluator keepsNested .anonymous "nested" [] world (callAt 1) [] 10 handle hkey
  have hexact : nested.Exact := by
    simp [nested, Datum.Exact, Datum.ExactItems, Datum.ExactEntries, Script.Arithmetic.fits]
    decide
  have hget : keepsNested.data.get? "nested" = some nested := (Dict.get?_insert _ _ _ _).trans (if_pos rfl)
  have hliteral : value (.literal (.int 7) {}) = (.ok (.int 7), m) := by
    simp only [value, eval]
    rfl
  have hheld := held_startState evaluator keepsNested .anonymous ["nested"]
  have hdata : value (.variable "Data" {}) = (.ok (.host .data), m) := by
    obtain ⟨_, hholds, rfl⟩ := hheld read
    simp only [value, eval]
    exact Moment.run_read hholds _
  obtain ⟨pool, hacquire⟩ : ∃ pool, evaluator.pool.acquire 0 (evaluator.defaultBindings keepsNested) =
      (.ok ⟨⟨0, []⟩, 10, Pool.boundVariables (evaluator.defaultBindings keepsNested)⟩, pool) := ⟨_, rfl⟩
  obtain ⟨hexecuted, hsurvive⟩ := stored_values_survive World.reply
  obtain ⟨hrewritten, hfound, ⟨-, hremoved⟩, hset⟩ := hsurvive m (callAt 1) _ written read key key "nested"
    (hcalls written) (hcalls read) {} {} {} {}
  obtain ⟨d, hdatum, hstored⟩ := (hset _ _ m hliteral (hheld _)).1 trivial
  obtain ⟨type, -, hrefused⟩ := (hset _ _ m hdata (hheld _)).2 id
  obtain rfl : Datum.int 7 = d := by injection hdatum
  have hstore : m.store.get? "nested" = some nested := hget
  rw [hstore] at hremoved
  have hended := hexecuted evaluator 0 keepsNested .anonymous "nested" [] world _ pool nested hacquire hget hexact
  exact ⟨hexact, id, ⟨pool, hended⟩, hrewritten nested hstore hexact, hfound _ _ m hliteral (hheld _) nested hstore,
    hremoved, hstored, ⟨_, hrefused⟩⟩

end Evaluator

end PlaceholderScripts
