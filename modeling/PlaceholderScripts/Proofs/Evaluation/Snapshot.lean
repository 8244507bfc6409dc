import PlaceholderScripts.Proofs.Evaluation.StoredValues
import PlaceholderScripts.Proofs.Script.Effects

/-!
# The snapshot of the data

A script begins with a copy of its data in a variable. The copy has the keys and the values that calls on the data
give at that time. From then on the two go their own ways: no call on the data changes a variable, code leaves every
variable that it does not write, and an assignment changes no data.
-/

namespace PlaceholderScripts

open Script (Run Value State Variable Caller Frame Expr Link Position Location HostObject HostCall Contract DataHandle)
open Script.Evaluate

namespace Script

/-- The latest variable of a name has this value. -/
def State.Binds (state : State) (name : String) (v : Value) : Prop :=
  (state.scope.find? fun x => x.name = name).map Variable.value = some v

theorem State.Binds.holds {state : State} {name : String} {v : Value} (h : state.Binds name v)
    (hv : ∀ id, v ≠ .cell id) : state.Holds name v := by
  obtain ⟨x, hx, rfl⟩ := Option.map_eq_some_iff.mp h
  refine ⟨x, hx, ?_⟩
  cases hvalue : x.value with
  | cell id => exact absurd hvalue (hv id)
  | _ => rfl

/-- Questions that leave the data as they are. -/
def HostCall.LeavesData : HostCall → Prop
  | .set _ _ | .remove _ | .clear => False
  | .get _ | .keys | .save | .substitute _ _ _ => True

/-- What keeps its value between two expressions: a variable, or the object of the method. -/
def Expr.IsPlace : Expr → Prop
  | .variable _ _ | .self _ => True
  | _ => False

namespace Value

theorem get?_ofEntries (key : String) (entries : List (String × Datum)) :
    Entries.get? key (ofEntries entries) = (Entries.get? key entries).map ofDatum := by
  induction entries with
  | nil => rfl
  | cons e rest ih =>
    obtain ⟨k, v⟩ := e
    rw [ofEntries, Entries.get?, Entries.get?, ih]
    split <;> rfl

theorem keys_ofEntries (entries : List (String × Datum)) :
    (ofEntries entries).map Prod.fst = entries.map Prod.fst := by
  induction entries with
  | nil => rfl
  | cons e rest ih => exact congrArg (e.1 :: ·) ih

theorem methodIn?_ofEntries (name : String) (entries : List (String × Datum)) :
    methodIn? name (.map (ofEntries entries)) = none := by
  rw [methodIn?, get?_ofEntries]
  cases Entries.get? name entries with
  | none => rfl
  | some d =>
    cases d with
    | int i =>
      by_cases hi : i < 2 ^ 63
      · rw [Option.map_some, ofDatum, if_pos hi]
      · rw [Option.map_some, ofDatum, if_neg hi]
    | _ => rfl

end Value

end Script

namespace Evaluator

theorem reply_ensures_store (store : Store) {q : HostCall} (h : q.LeavesData) :
    (reply store q).Ensures fun r => r.2 = store := by
  cases q with
  | set key value => exact h.elim
  | remove key => exact h.elim
  | clear => exact h.elim
  | save => exact Dialogue.ensures_bind _ fun _ => rfl
  | substitute form identity text => exact Dialogue.ensures_bind _ fun _ => rfl
  | _ => exact rfl

end Evaluator

/-- What every reply to such a question ensures of what is carried along, the whole relay ensures. -/
theorem Dialogue.Obeys.relay_ensures {Ask Ask' : Type} {Reply : Ask → Type} {Reply' : Ask' → Type} {α σ : Type}
    {reply : σ → (q : Ask) → Dialogue Ask' Reply' (Reply q × σ)} {P : Ask → Prop} {Q : α → Prop} {I : σ → Prop}
    (hreply : ∀ s q, P q → I s → (reply s q).Ensures fun r => I r.2) {d : Dialogue Ask Reply α} (h : d.Obeys P Q)
    {s : σ} (hs : I s) : (d.relay reply s).Ensures fun r => I r.2 := by
  induction d generalizing s with
  | done a => exact hs
  | ask q next ih => exact (hreply s q h.1 hs).bind fun r hr => ih r.1 (h.2 r.1) hr

namespace Moment

variable {σ α : Type} {reply : σ → (q : Request) → q.Reply × σ} {m m₁ m₂ after : Moment σ} {call : Caller} {f : Frame}

theorem moves_run {part : Run α} {terms : Contract} (h : part.Meets terms) (m : Moment σ) :
    terms.moves m.state.scope (m.run reply part).2.state.scope :=
  (((h m.state).ensures.relay Evaluator.reply m.store).run reply m.surroundings).2

theorem store_run {part : Run α} (h : part.Meets (.asking HostCall.LeavesData)) (m : Moment σ) :
    (m.run reply part).2.store = m.store := by
  have hrelay : (Dialogue.relay Evaluator.reply (part.run.run m.state) m.store).Ensures fun r => r.2 = m.store :=
    (h m.state).relay_ensures (I := (· = m.store))
      (fun s q hq hs => by rw [← hs]; exact Evaluator.reply_ensures_store s hq) rfl
  exact hrelay.run reply m.surroundings

theorem state_run_callNative (name : String) (arguments : List Value) (p : Position) :
    (m.run reply (callNative f name arguments p)).2.state = m.state := by
  unfold callNative
  split
  · next r _ => cases r <;> rfl
  · dsimp only
    split
    · split
      · next hosted _ =>
        rw [run_bind_of_ok (run_host hosted)]
        cases (Dialogue.run reply (Dialogue.relay Evaluator.reply hosted m.store) m.surroundings).1.1 <;> rfl
      · rfl
    · rfl

section Reading

variable {entries : List (String × Datum)} (h : m.state.Binds "DataVar" (.map (Value.ofEntries entries)))
include h

theorem run_snapshotKeys (hown : f.callee? "keys" 0 = none) (p q r : Position) :
    m.run reply (eval call f (.chain (.variable "DataVar" p) [.method "keys" [] false q] r)) =
      (.ok (.list (entries.map fun e => .text e.1)), m) := by
  obtain ⟨x, hx, hcontents⟩ := h.holds (by simp)
  have hkeys : Script.Builtin.call "keys" [.map (Value.ofEntries entries)] =
      some (.ok { value := .list (entries.map fun e => .text e.1) }) := by
    have hnames : (Value.ofEntries entries).map (fun e => Value.text e.1) = entries.map fun e => .text e.1 := by
      have heq := congrArg (List.map Value.text) (Value.keys_ofEntries entries)
      simpa only [List.map_map, Function.comp_def] using heq
    rw [← hnames]
    rfl
  have hmethod := @callMethod_builtin call f q "keys" (.map (Value.ofEntries entries)) [] _ ⟨by decide, by decide⟩
    (Value.methodIn?_ofEntries "keys" entries) hown rfl hkeys
  rw [← hcontents] at hmethod
  exact run_of_ends (ends_method_variable ends_evalAll_nil hx hmethod)

theorem run_snapshotAt {key : Expr} {k : String} (hkey : m.run reply (eval call f key) = (.ok (.text k), m))
    (p q r : Position) :
    m.run reply (eval call f (.chain (.variable "DataVar" p) [.index key false q] r)) =
      (.ok (HostObject.ofStored (Entries.get? k entries)), m) := by
  refine run_index hkey (h.holds (by simp)) ?_
  rw [Script.Part.get, Value.get?_ofEntries]
  cases Entries.get? k entries <;> rfl

end Reading

/-- Code that does not write a variable leaves it, whatever it calls and asks. -/
theorem binds_evalBody {x : String} {v : Value} (hbinds : m.state.Binds x v) (depth : Nat) (f : Frame)
    {body : List Expr} (hbody : x ∉ Expr.writtenAll body) :
    (m.run reply (evalBody (callAt depth) f body)).2.state.Binds x v :=
  (moves_run (meets_sparing depth f hbody) m).find?.trans hbinds

section Assignments

variable {value : Expr} {new : Value} {links : List Link} {steps : List Step}

/-- The variable or the object of the method gets another value, and no data are touched. -/
theorem store_assign {place : Expr} (hplace : place.IsPlace)
    (hvalue : m.run reply (eval call f value) = (.ok new, m₁)) (operation : Option String) (p : Position) :
    (m.run reply (eval call f (.assign place operation value p))).2.store = m₁.store := by
  rw [eval, run_bind_of_ok hvalue]
  refine store_run ?_ m₁
  cases place with
  | «variable» x q =>
    exact .bind (.read _ _) fun old => .bind (meets_combine f operation old new p) fun _ =>
      .bind (meets_putBack f _ (by trivial) fun _ _ => trivial) fun _ => .pure _
  | self q =>
    exact .bind (meets_self f _) fun old => .bind (meets_combine f operation old new p) fun _ =>
      .bind (meets_setSelf _) fun _ => .pure _
  | _ => exact hplace.elim

omit links in
/-- Where no method is called on the way to a part, an assignment to the part asks nothing. -/
theorem meets_assignTo_part (hsteps : steps.any Step.isMethod = false) (operation : Option String) (p : Position)
    (v : Value) : (assignTo call f operation new p steps v).Meets (.asking HostCall.LeavesData) :=
  meets_assignTo f operation new p (fun hany => absurd (hsteps.symm.trans hany) Bool.false_ne_true) v

theorem store_assign_part {place : Expr} (hplace : place.IsPlace)
    (hvalue : m.run reply (eval call f value) = (.ok new, m₁))
    (hlinks : m₁.run reply (evalLinks call f links) = (.ok steps, m₂)) (hsteps : steps.any Step.isMethod = false)
    (operation : Option String) (p r : Position) :
    (m.run reply (eval call f (.assign (.chain place links r) operation value p))).2.store = m₂.store := by
  have hassign := @meets_assignTo_part call f new steps hsteps operation p
  rw [eval, run_bind_of_ok hvalue]
  dsimp only
  rw [run_bind_of_ok hlinks]
  refine store_run ?_ m₂
  cases place with
  | «variable» x q =>
    exact .bind (.read _ _) fun v => .bind (hassign v) fun _ =>
      .bind (meets_putBack f _ (by trivial) fun _ _ => trivial) fun _ => .pure _
  | self q =>
    exact .bind (meets_self f _) fun v => .bind (hassign v) fun _ => .bind (meets_setSelf _) fun _ => .pure _
  | _ => exact hplace.elim

omit new links steps in
theorem meets_get (k : String) (hown : f.callee? "get" 1 = none) (p : Position) :
    (callMethod call f (.host .data) "get" [.text k] p).Meets (.asking HostCall.LeavesData) := by
  have hbuiltin : Script.Builtin.call "get" [.host .data, .text k] = none := rfl
  have hfunction : HostObject.data.function? "get" [.text k] =
      some (.ask (HostCall.get k) fun d => HostObject.answer (HostObject.ofStored d)) := rfl
  have hnative : callMethod call f (.host .data) "get" [.text k] p = callNative f "get" [.host .data, .text k] p :=
    DataCall.callMethod_data (c := .get k) hown p
  rw [hnative]
  simp only [callNative, hbuiltin, hfunction]
  exact .bind_host (P := Script.FailsSoundly) ⟨trivial, fun _ => .ok _⟩ fun r hr =>
    .bind (.located hr _) fun _ => .pure _

theorem meets_assignTo_read {handle : DataHandle} {start : Value} (hstarts : handle.Starts start) (k : String)
    (hown : f.callee? "get" 1 = none) (operation : Option String) (p q : Position)
    (hsteps : steps.any Step.isMethod = false) :
    (assignTo call f operation new p (handle.steps ++ .method "get" [.text k] false q :: steps) start).Meets
      (.asking HostCall.LeavesData) := by
  have hdata : (assignTo call f operation new p (.method "get" [.text k] false q :: steps) (.host .data)).Meets
      (.asking HostCall.LeavesData) := by
    have hgoes : stops false (.host .data) = false := rfl
    rw [assignTo, hgoes, if_neg Bool.false_ne_true]
    exact .bind (meets_get k hown q) fun _ => .bind (meets_assignTo_part hsteps operation p _) fun _ => .pure _
  cases handle with
  | own p =>
    cases hstarts
    exact hdata
  | placeholder p q =>
    obtain ⟨identifier, template, rfl⟩ := hstarts
    have hgoes : stops false (.host (.placeholder identifier template)) = false := rfl
    have hproperty : property? "data" (.host (.placeholder identifier template)) = some (.host .data) := rfl
    rw [DataHandle.steps, List.singleton_append, assignTo, hgoes, if_neg Bool.false_ne_true]
    · simp only [hproperty]
      exact .bind hdata fun _ => .pure _
    · simp
    · simp

theorem store_assign_read {handle : DataHandle} {key : Expr} {k : String}
    (hvalue : m.run reply (eval call f value) = (.ok new, m₁)) {q : Position}
    (hlinks : m₁.run reply (evalLinks call f (.method "get" [key] false q :: links)) =
      (.ok (.method "get" [.text k] false q :: steps), m₂))
    (hsteps : steps.any Step.isMethod = false) (hheld : handle.Held m₂.state) (hown : f.callee? "get" 1 = none)
    (operation : Option String) (p r : Position) :
    (m.run reply (eval call f (.assign (.chain (.variable handle.root handle.rootAt)
      (handle.links ++ .method "get" [key] false q :: links) r) operation value p))).2.store = m₂.store := by
  obtain ⟨start, hholds, hstarts⟩ := hheld
  rw [eval, run_bind_of_ok hvalue]
  dsimp only
  rw [run_bind_of_ok (run_evalLinks handle hlinks), run_bind_of_ok (run_read hholds _)]
  refine store_run (.bind (meets_assignTo_read hstarts k hown operation p q hsteps) fun _ => ?_) m₂
  exact .bind (meets_putBack f _ (by trivial) fun _ _ => trivial) fun _ => .pure _

end Assignments

end Moment

namespace Evaluator

variable {σ : Type}

def snapshot (d : Definition) : Value := .map (Value.ofEntries d.data.values.entries)

theorem binds_startState (evaluator : Evaluator) (d : Definition) (identity : Identity) (args : List String) :
    (evaluator.startState d identity args).Binds "DataVar" (snapshot d) := by
  rw [State.Binds, startState, find?_of_unbound identity args _ "DataVar" (by decide)]
  rfl

/-- The snapshot of the data is faithful and detached. A script begins with it, and while the data are as they were
then, it has the keys that they list, in ascending order, and under every key what is read from them. Whatever is
called on the data, through either handle, every variable stays as it was, and only the store changes, in the same
way. Code in which the snapshot is not written leaves it, whatever else it does, and no assignment into a variable or
into what is read from the data changes the store, as its operands have left it. -/
theorem snapshot_is_detached (reply : σ → (q : Request) → q.Reply × σ) (evaluator : Evaluator) (d : Definition) :
    (∀ identity args, (evaluator.startState d identity args).Binds "DataVar" (snapshot d) ∧
      ∀ handle : DataHandle, handle.Held (evaluator.startState d identity args)) ∧
    d.data.values.keys.Pairwise (· < ·) ∧
    (∀ (m : Moment σ) call f (handle : DataHandle) key k, m.state.Binds "DataVar" (snapshot d) → m.store = d.data →
      m.CallsData reply call f handle key k → ∀ p q r,
        m.run reply (eval call f (.chain (.variable "DataVar" p) [.method "keys" [] false q] r)) =
          (.ok (.list (d.data.values.keys.map .text)), m) ∧
        m.run reply (eval call f (handle.call "keys" [] q r)) = (.ok (.list (d.data.values.keys.map .text)), m) ∧
        m.run reply (eval call f (.chain (.variable "DataVar" p) [.index key false q] r)) =
          (.ok (HostObject.ofStored (d.data.get? k)), m) ∧
        m.run reply (eval call f (handle.call "get" [key] q r)) = (.ok (HostObject.ofStored (d.data.get? k)), m)) ∧
    (∀ (m after : Moment σ) call f (c : DataCall) arguments,
      m.run reply (evalAll call f arguments) = (.ok c.arguments, after) →
      f.callee? c.name c.arguments.length = none → ∀ handle : DataHandle, handle.Held after.state → ∀ p q,
        m.run reply (eval call f (handle.call c.name arguments p q)) =
          (c.outcome after.store (f.locate p), { after with store := c.after after.store })) ∧
    (∀ (m : Moment σ) f name arguments p, (m.run reply (callNative f name arguments p)).2.state = m.state) ∧
    (∀ (m : Moment σ) depth f body, m.state.Binds "DataVar" (snapshot d) → "DataVar" ∉ Expr.writtenAll body →
      (m.run reply (evalBody (callAt depth) f body)).2.state.Binds "DataVar" (snapshot d)) ∧
    ∀ (m m₁ m₂ : Moment σ) call f value new, m.run reply (eval call f value) = (.ok new, m₁) →
      (∀ place : Expr, place.IsPlace → ∀ operation p,
        (m.run reply (eval call f (.assign place operation value p))).2.store = m₁.store ∧
        ∀ links steps, m₁.run reply (evalLinks call f links) = (.ok steps, m₂) → steps.any Step.isMethod = false →
          ∀ q, (m.run reply (eval call f (.assign (.chain place links q) operation value p))).2.store = m₂.store) ∧
      ∀ (handle : DataHandle) key k links steps q,
        m₁.run reply (evalLinks call f (.method "get" [key] false q :: links)) =
          (.ok (.method "get" [.text k] false q :: steps), m₂) →
        steps.any Step.isMethod = false → handle.Held m₂.state → f.callee? "get" 1 = none → ∀ operation p r,
          (m.run reply (eval call f (.assign (.chain (.variable handle.root handle.rootAt)
            (handle.links ++ .method "get" [key] false q :: links) r) operation value p))).2.store = m₂.store := by
  refine ⟨fun identity args => ⟨binds_startState evaluator d identity args, held_startState evaluator d identity args⟩,
    ?ascending, ?agrees, fun m after call f c arguments harguments hown handle hheld p q =>
      Moment.run_dataCall c harguments hheld hown p q, fun m f => Moment.state_run_callNative,
    fun m depth f body hbinds hbody => Moment.binds_evalBody hbinds depth f hbody,
    fun m m₁ m₂ call f value new hvalue => ⟨?assigned, ?read⟩⟩
  case ascending => exact List.pairwise_map.mpr d.data.values.ascending
  case agrees =>
    intro m call f handle key k hbinds hstore h p q r
    have hread := h.run_get q r
    rw [hstore] at hread
    refine ⟨?_, ?_, Moment.run_snapshotAt hbinds h.reads p q r, hread⟩
    · rw [Moment.run_snapshotKeys hbinds (h.unowned .keys) p q r, Dict.keys, List.map_map]
      rfl
    · refine (Moment.run_dataCall .keys Moment.run_evalAll_nil h.held (h.unowned .keys) q r).trans ?_
      rw [DataCall.outcome, DataCall.answer, DataCall.after, ← hstore]
      rfl
  case assigned =>
    intro place hplace operation p
    refine ⟨Moment.store_assign hplace hvalue operation p, fun links steps hlinks hsteps q => ?_⟩
    exact Moment.store_assign_part hplace hvalue hlinks hsteps operation p q
  case read =>
    intro handle key k links steps q hlinks hsteps hheld hown operation p r
    exact Moment.store_assign_read hvalue hlinks hsteps hheld hown operation p r

def refilling : String := "Data.clear(); Placeholder.data.set(\"nested\", DataVar.nested)"

theorem parse_refilling : ∃ script, Script.parse refilling = .ok script ∧
    Expr.writtenAll script.body = ["Data", "Placeholder"] := by
  obtain ⟨a, b, c, d, e, g, h, i, j, k, l, hparse⟩ : ∃ a b c d e g h i j k l,
      Script.parse refilling = .ok ⟨[], [(DataHandle.own a).call "clear" [] b c,
        (DataHandle.placeholder d e).call "set" [.literal (.text "nested") g,
          .chain (.variable "DataVar" h) [.property "nested" false i] j] k l]⟩ :=
    ⟨_, _, _, _, _, _, _, _, _, _, _, rfl⟩
  exact ⟨_, hparse, rfl⟩

theorem snapshot_is_detached_cleared :
    let evaluator : Evaluator := .new { library := ⟨[]⟩, rounds := 10 } {}
    let world : World := ⟨⟨[], []⟩, .zero, SubstitutionTable.service .empty⟩
    let m : Moment World := ⟨evaluator.startState keepsNested .anonymous ["nested"], keepsNested.data, world⟩
    let f : Frame := { units := [⟨none, []⟩], modules := [], rounds := 10 }
    let run (e : Expr) := m.run World.reply (eval (callAt 1) f e)
    let key : Expr := .chain (.variable "args" {}) [.index (.literal (.int 0) {}) false {}] {}
    let copy : Expr := .variable "DataVar" {}
    let handle : DataHandle := .placeholder {} {}
    let seven : Expr := .literal (.int 7) {}
    run (.chain copy [.index key false {}] {}) = (.ok (.ofDatum nested), m) ∧
      run (handle.call "get" [key] {} {}) = (.ok (.ofDatum nested), m) ∧
      run (handle.call "clear" [] {} {}) = (.ok .unit, { m with store := m.store.clear }) ∧
      (∃ script, Script.parse refilling = .ok script ∧
        (m.run World.reply (evalBody (callAt 1) f script.body)).2.state.Binds "DataVar" (snapshot keepsNested)) ∧
      (run (.assign (.chain copy [.property "nested" false {}] {}) none seven {})).2.store = m.store ∧
      (run (.assign (.chain (.variable handle.root handle.rootAt)
        (handle.links ++ [.method "get" [key] false {}, .property "nested" false {}]) {}) none seven {})).2.store =
          m.store := by
  intro evaluator world m f run key copy handle seven
  have hkey : IsFirstArgument key := ⟨_, _, _, _, rfl⟩
  have hcalls : m.CallsData World.reply (callAt 1) f handle key "nested" :=
    callsData_start World.reply evaluator keepsNested .anonymous "nested" [] world (callAt 1) [] 10 handle hkey
  have hget : keepsNested.data.get? "nested" = some nested := (Dict.get?_insert _ _ _ _).trans (if_pos rfl)
  obtain ⟨hstart, -, hagrees, hcalled, -, hspared, hassigned⟩ := snapshot_is_detached World.reply evaluator keepsNested
  obtain ⟨hbinds, hheld⟩ := hstart .anonymous ["nested"]
  obtain ⟨-, -, hindex, hread⟩ := hagrees m (callAt 1) f handle key "nested" hbinds rfl hcalls {} {} {}
  rw [hget] at hindex hread
  have hcleared := hcalled m m (callAt 1) f .clear [] Moment.run_evalAll_nil rfl handle (hheld handle) {} {}
  have hseven : run seven = (.ok (.int 7), m) := by
    simp only [run, seven, eval]
    rfl
  have hproperty : m.run World.reply (evalLinks (callAt 1) f [.property "nested" false {}]) =
      (.ok [.property "nested" false {}], m) := by
    simp only [evalLinks, evalLink, pure_bind]
    rfl
  have hlinks : m.run World.reply (evalLinks (callAt 1) f [.method "get" [key] false {}, .property "nested" false {}]) =
      (.ok [.method "get" [.text "nested"] false {}, .property "nested" false {}], m) := by
    have hkeys := Moment.run_evalAll_cons hcalls.reads Moment.run_evalAll_nil
    rw [evalLinks, evalLink, bind_assoc, Moment.run_bind_of_ok hkeys, pure_bind, Moment.run_bind_of_ok hproperty,
      Moment.run_pure]
  obtain ⟨hplaces, hreads⟩ := hassigned m m m (callAt 1) f seven _ hseven
  obtain ⟨script, hparse, hwritten⟩ := parse_refilling
  have hkept := hspared m 1 f _ hbinds (by rw [hwritten]; decide)
  have hcopied := (hplaces copy trivial none {}).2 _ _ hproperty rfl {}
  have hchanged := hreads handle key "nested" _ _ {} hlinks rfl (hheld handle) rfl none {} {}
  exact ⟨hindex, hread, hcleared, ⟨script, hparse, hkept⟩, hcopied, hchanged⟩

end Evaluator

end PlaceholderScripts
