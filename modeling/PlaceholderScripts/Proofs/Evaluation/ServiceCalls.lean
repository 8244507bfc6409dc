import PlaceholderScripts.Proofs.Evaluation.Moments
import PlaceholderScripts.Proofs.Evaluation.Session
import PlaceholderScripts.Proofs.Substitution.OfflineView

/-!
# Calls of the substitution service

A script calls the service on behalf of the requester through one of the handles that it is bound to. What
the call answers is followed through the interpreter: the arguments are evaluated, the name leads to the
function of the host, and the host hands the text over for the identity that the handle stands for.
-/

namespace PlaceholderScripts

namespace Script

/-- Whom a handle stands for when the service is called with it. -/
def HostObject.requester? : HostObject → Option Identity
  | .player p => some (.online p)
  | .offlinePlayer p => some (.offline p)
  | _ => none

/-- The name under which scripts call the service for a form of tokens. -/
def serviceFunction : TokenForm → String
  | .percent => "set_placeholders"
  | .bracket => "set_bracket_placeholders"

/-- The call of the service on behalf of what a variable holds, with an expression for the text. -/
def serviceCall (form : TokenForm) (holder : String) (argument : Expr) (api handle method whole : Position) :
    Expr :=
  .chain (.variable "PlaceholderAPI" api)
    [.method (serviceFunction form) [.variable holder handle, argument] false method] whole

theorem parse_serviceCall (form : TokenForm) {holder : String}
    (h : holder = "OfflinePlayer" ∨ holder = "Player") :
    ∃ argument api handle method whole,
      Script.parse ("PlaceholderAPI." ++ serviceFunction form ++ "(" ++ holder ++ ", text)") =
        .ok ⟨[], [serviceCall form holder (.variable "text" argument) api handle method whole]⟩ := by
  cases form with
  | percent =>
    cases h with
    | inl h => subst h; exact ⟨_, _, _, _, _, rfl⟩
    | inr h => subst h; exact ⟨_, _, _, _, _, rfl⟩
  | bracket =>
    cases h with
    | inl h => subst h; exact ⟨_, _, _, _, _, rfl⟩
    | inr h => subst h; exact ⟨_, _, _, _, _, rfl⟩

structure State.BoundTo (state : State) (identity : Identity) : Prop where
  api : state.Holds "PlaceholderAPI" (.host .substitution)
  offline : ∀ view, identity.offlineView? = some view →
    state.Holds "OfflinePlayer" (.host (.offlinePlayer view))
  online : ∀ player, identity.onlinePlayer? = some player → state.Holds "Player" (.host (.player player))

end Script

namespace Moment

open Script (Run Value HostObject)

variable {σ : Type} {reply : σ → (q : Request) → q.Reply × σ} {m : Moment σ}

/-- The host hands the text over to the service of the surroundings. -/
theorem run_substitute {form : TokenForm} {identity : Identity} {text result : String}
    (h : reply m.surroundings (.substitute form identity text) = (.ok result, m.surroundings)) :
    m.run reply (Run.host (HostObject.substitute form identity text)) = (.ok (.ok (.text result)), m) := by
  have hreply : Dialogue.run reply (Evaluator.reply m.store (.substitute form identity text)) m.surroundings =
      ((.ok result, m.store), m.surroundings) := by
    change (((reply m.surroundings (.substitute form identity text)).1, m.store),
      (reply m.surroundings (.substitute form identity text)).2) = _
    rw [h]
    rfl
  rw [run_host, HostObject.substitute, Dialogue.relay, Dialogue.run_bind, hreply]
  rfl

end Moment

open Script Script.Evaluate

namespace Script.Evaluate

variable {form : TokenForm} {handle : HostObject} {identity : Identity} {f : Frame}

/-- No built-in function has the name, and the host knows for whom it is called. -/
theorem callNative_service (h : handle.requester? = some identity) (text : String) (p : Position) :
    callNative f (serviceFunction form) [.host .substitution, .host handle, .text text] p = do
      let v ← Run.located (f.locate p) (← Run.host (HostObject.substitute form identity text))
      return { value := v } := by
  have hbuiltin : Builtin.call (serviceFunction form) [.host .substitution, .host handle, .text text] = none := by
    cases form <;> rfl
  have hfunction : HostObject.substitution.function? (serviceFunction form) [.host handle, .text text] =
      some (HostObject.substitute form identity text) := by
    cases handle with
    | player p => cases h; cases form <;> rfl
    | offlinePlayer p => cases h; cases form <;> rfl
    | _ => cases h
  simp only [callNative, hbuiltin, hfunction]

/-- The method of a handle is that of the host, where the script has no function of its own. -/
theorem callMethod_service (call : Caller) (hown : f.callee? (serviceFunction form) 2 = none) (v w : Value)
    (p : Position) :
    callMethod call f (.host .substitution) (serviceFunction form) [v, w] p =
      callNative f (serviceFunction form) [.host .substitution, v, w] p := by
  cases form with
  | percent =>
    have hcallee : f.callee? "set_placeholders" 2 = none := hown
    simp only [callMethod, serviceFunction, methodIn?, List.length_cons, List.length_nil, hcallee]
    rfl
  | bracket =>
    have hcallee : f.callee? "set_bracket_placeholders" 2 = none := hown
    simp only [callMethod, serviceFunction, methodIn?, List.length_cons, List.length_nil, hcallee]
    rfl

end Script.Evaluate

/-- A call of the service in an evaluation, with an expression for the text. The script has no function under
the name, and the surroundings answer from the table. -/
structure ServiceCall {σ : Type} (reply : σ → (q : Request) → q.Reply × σ) (table : SubstitutionTable)
    (identity : Identity) where
  caller : Caller
  frame : Frame
  form : TokenForm
  argument : Expr
  text : String
  before : Moment σ
  after : Moment σ
  unowned : frame.callee? (serviceFunction form) 2 = none
  evaluates : before.run reply (eval caller frame argument) = (.ok (.text text), after)
  bound : before.state.BoundTo identity
  api : after.state.Holds "PlaceholderAPI" (.host .substitution)
  answers : ∀ requester text, reply after.surroundings (.substitute form requester text) =
    (table.service form requester text, after.surroundings)

namespace ServiceCall

variable {σ : Type} {reply : σ → (q : Request) → q.Reply × σ} {table : SubstitutionTable}
  {identity : Identity} (c : ServiceCall reply table identity)

/-- The call on behalf of what a variable holds returns this, wherever it is written. -/
def Returns (holder : String) (result : String) : Prop :=
  ∀ api handle method whole : Position,
    c.before.run reply
      (eval c.caller c.frame (serviceCall c.form holder c.argument api handle method whole)) =
        (.ok (.text result), c.after)

variable {c}

theorem run_arguments {holder : String} {v : Value} (h : c.before.state.Holds holder v) (p : Position) :
    c.before.run reply (evalAll c.caller c.frame [.variable holder p, c.argument]) =
      (.ok [v, .text c.text], c.after) := by
  have hhandle : c.before.run reply (eval c.caller c.frame (.variable holder p)) = (.ok v, c.before) := by
    rw [eval]
    exact Moment.run_read h _
  exact Moment.run_evalAll_cons hhandle (Moment.run_evalAll_cons c.evaluates Moment.run_evalAll_nil)

theorem run_method {handle : HostObject} {requester : Identity} (h : handle.requester? = some requester)
    (p : Position) :
    c.after.run reply
      (callMethod c.caller c.frame (.host .substitution) (serviceFunction c.form) [.host handle, .text c.text] p) =
        (.ok { value := .text (table.substitute c.form requester c.text) }, c.after) := by
  have hanswer := Moment.run_substitute (c.answers requester c.text)
  rw [callMethod_service c.caller c.unowned, callNative_service h, Moment.run_bind_of_ok hanswer]
  rfl

theorem returns_of_holds {holder : String} {handle : HostObject} {requester : Identity}
    (hholder : c.before.state.Holds holder (.host handle)) (hrequester : handle.requester? = some requester) :
    c.Returns holder (table.substitute c.form requester c.text) := by
  intro api handleAt method whole
  let step : Step := .method (serviceFunction c.form) [.host handle, .text c.text] false method
  have hlinks := Moment.run_evalLinks_method (serviceFunction c.form) (run_arguments hholder handleAt) method
  have hfollow : c.after.run reply (follow c.caller c.frame [step] (.host .substitution)) =
      (.ok (.text (table.substitute c.form requester c.text), none), c.after) := by
    have hcalled := c.run_method hrequester method
    have hgoes : stops false (.host .substitution) = false := rfl
    rw [follow, hgoes, if_neg Bool.false_ne_true, Moment.run_bind_of_ok hcalled, follow, pure_bind,
      Moment.run_pure]
  have hread : c.after.run reply (Run.read "PlaceholderAPI" (c.frame.locate api)) =
      (.ok (.host .substitution), c.after) := Moment.run_read c.api _
  rw [serviceCall, eval, Moment.run_bind_of_ok hlinks]
  dsimp only
  rw [Moment.run_bind_of_ok hread, Moment.run_bind_of_ok hfollow]
  rfl

theorem Returns.unique {holder result result' : String} (h : c.Returns holder result)
    (h' : c.Returns holder result') : result' = result := by
  have hboth := (h {} {} {} {}).symm.trans (h' {} {} {} {})
  simpa using hboth.symm

end ServiceCall

namespace Evaluator

/-- At its beginning a script has its requester and the service under their names. -/
theorem boundTo_of_bindings (evaluator : Evaluator) (d : Definition) (identity : Identity)
    (args : List String) :
    State.BoundTo { scope := Pool.boundVariables (callBindings identity args) ++
      Pool.boundVariables (evaluator.defaultBindings d) } identity where
  api := ⟨_, find?_of_unbound identity args _ "PlaceholderAPI" (by decide), rfl⟩
  offline := by
    intro view hview
    refine ⟨{ name := "OfflinePlayer", value := .host (.offlinePlayer view) }, ?_, rfl⟩
    cases honline : identity.onlinePlayer? <;>
      simp [callBindings, honline, hview, Bindings.ofList, Bindings.insert, Bindings.insertIn,
        Bindings.empty, Pool.boundVariables]
  online := by
    intro player honline
    refine ⟨{ name := "Player", value := .host (.player player) }, ?_, rfl⟩
    simp [callBindings, honline, Bindings.ofList, Bindings.insert, Bindings.insertIn,
      Bindings.empty, Pool.boundVariables]

/-- The handle of a requester who may not be connected stands for that requester, unless it is connected and
asked whether it is. The calls are those that scripts write; at its beginning every script has the handles
of its requester. The service is asked on behalf of the offline view, for which it answers "no" to
`player_online` and everything else as for the requester. So for a connected requester both handles come to
the same exactly for the texts in which that token is not read. -/
theorem offline_handle_stands_for_requester_iff {σ : Type} (reply : σ → (q : Request) → q.Reply × σ)
    (table : SubstitutionTable) {identity : Identity} {view : OfflinePlayer}
    (hview : identity.offlineView? = some view) :
    (∀ form holder, holder = "OfflinePlayer" ∨ holder = "Player" → ∃ argument api handle method whole,
      Script.parse ("PlaceholderAPI." ++ serviceFunction form ++ "(" ++ holder ++ ", text)") =
        .ok ⟨[], [serviceCall form holder (.variable "text" argument) api handle method whole]⟩) ∧
    (∀ (evaluator : Evaluator) (d : Definition) (args : List String),
      State.BoundTo { scope := Pool.boundVariables (callBindings identity args) ++
        Pool.boundVariables (evaluator.defaultBindings d) } identity) ∧
    (∀ c : ServiceCall reply table identity,
      c.Returns "OfflinePlayer" (table.substitute c.form (.offline view) c.text) ∧
      (∀ player, identity.onlinePlayer? = some player →
        c.Returns "Player" (table.substitute c.form identity c.text)) ∧
      (c.Returns "OfflinePlayer" (table.substitute c.form identity c.text) ↔
        identity.onlinePlayer? = none ∨ ¬ c.form.Mentions "player_online" c.text)) ∧
    ∀ form text, table.substitute form (.offline view) text =
      form.fill (fun key => if key = "player_online" then some "no" else table.resolve identity key) text := by
  refine ⟨fun form holder h => parse_serviceCall form h,
    fun evaluator d args => boundTo_of_bindings evaluator d identity args, fun c => ?calls, ?fills⟩
  case calls =>
    have hoffline : c.Returns "OfflinePlayer" (table.substitute c.form (.offline view) c.text) :=
      ServiceCall.returns_of_holds (c.bound.offline view hview) rfl
    refine ⟨hoffline, ?_, ?_⟩
    · intro player honline
      have hidentity : (HostObject.player player).requester? = some identity := by
        cases identity with
        | online other => cases honline; rfl
        | offline _ => cases honline
        | anonymous => cases honline
      exact ServiceCall.returns_of_holds (c.bound.online player honline) hidentity
    · rw [← SubstitutionTable.substitute_offline_eq_iff hview]
      constructor
      · intro h
        exact h.unique hoffline
      · intro heq
        rwa [← heq]
  case fills =>
    intro form text
    rw [SubstitutionTable.substitute, funext (SubstitutionTable.resolve_offline hview table)]

def alex : Identity := .online { id := ⟨1⟩, name := "Alex" }

/-- The first call of a script of the player: the text is whether the player is connected. -/
def connectedCall : ServiceCall World.reply .empty alex :=
  let connected : Definition := .ephemeral "connected" ""
  let bound := boundTo_of_bindings (.new { library := ⟨[]⟩, rounds := 10 } {}) connected alex []
  let before : Moment World :=
    ⟨_, connected.data, ⟨⟨[], []⟩, .zero, SubstitutionTable.service .empty⟩⟩
  { caller := callAt 1
    frame := { units := [⟨none, []⟩], modules := [], rounds := 10 }
    form := .bracket
    argument := .literal (.text "{player_online}") ⟨1, 1⟩
    text := "{player_online}"
    before
    after := before
    unowned := rfl
    evaluates := rfl
    bound
    api := bound.api
    answers := fun _ _ => rfl }

/-- The text has the token that tells the handles of a connected player apart. -/
theorem offline_handle_stands_for_requester_iff_connected :
    alex.offlineView? = some ⟨⟨1⟩, some "Alex", true⟩ ∧ connectedCall.Returns "OfflinePlayer" "no" ∧
      connectedCall.Returns "Player" "yes" ∧ TokenForm.bracket.Mentions "player_online" "{player_online}" := by
  have hview : alex.offlineView? = some ⟨⟨1⟩, some "Alex", true⟩ := rfl
  obtain ⟨-, -, hcalls, -⟩ := offline_handle_stands_for_requester_iff World.reply .empty hview
  obtain ⟨hoffline, honline, hsame⟩ := hcalls connectedCall
  have hno : SubstitutionTable.substitute .empty .bracket (.offline ⟨⟨1⟩, some "Alex", true⟩)
      "{player_online}" = "no" := by decide +kernel
  have hyes : SubstitutionTable.substitute .empty .bracket alex "{player_online}" = "yes" := by
    decide +kernel
  change connectedCall.Returns _ (SubstitutionTable.substitute _ .bracket _ "{player_online}") at hoffline
  change ∀ player, _ → connectedCall.Returns _ (SubstitutionTable.substitute _ .bracket _ "{player_online}")
    at honline
  rw [hno] at hoffline
  rw [hyes] at honline
  refine ⟨hview, hoffline, honline _ rfl, ?_⟩
  by_contra hnot
  have hyesToo := hsame.mpr (.inr hnot)
  change connectedCall.Returns _ (SubstitutionTable.substitute _ .bracket _ "{player_online}") at hyesToo
  rw [hyes] at hyesToo
  exact absurd (hoffline.unique hyesToo) (by decide)

/-- A script that asks the service whether the player of a handle is connected. -/
def asking (holder : String) : Session World :=
  Session.start (.new { library := ⟨[]⟩, rounds := 10 } {})
    (Definition.ephemeral "asking"
      ("PlaceholderAPI.set_bracket_placeholders(" ++ holder ++ ", \"{player_online}\")"))
    ⟨⟨[], []⟩, .zero, SubstitutionTable.service .empty⟩

/-- The view says that the player is connected, and the service says so for the player itself and through its
other handle. -/
theorem offline_handle_of_connected_player :
    let answer (holder : String) := answer ((asking holder).outcome World.reply ⟨0, alex, []⟩).1.1
    alex.offlineView?.map OfflinePlayer.online = some true ∧
      SubstitutionTable.substitute .empty .bracket alex "{player_online}" = "yes" ∧
      answer "Player" = "yes" ∧ answer "OfflinePlayer" = "no" := by
  intro answer
  exact ⟨rfl, by decide +kernel, by decide +kernel, by decide +kernel⟩

end Evaluator

end PlaceholderScripts
