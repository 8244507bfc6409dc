import PlaceholderScripts.Definition
import PlaceholderScripts.Pool
import PlaceholderScripts.Template

/-!
# Evaluations

A script definition is evaluated on behalf of a requester, with arguments. Where a live result is cached
under the requester and the arguments, that is the answer. Otherwise the placeholders of the template are
substituted, then those of the arguments, then the script is executed, and then the placeholders of its
result are substituted; the answer is cached. Whatever fails ends the evaluation, and nothing is cached.
-/

namespace PlaceholderScripts

inductive EvaluationError where
  /-- An index outside of a list that is as long as the list of arguments. -/
  | argument (script message : String)
  | scriptExecution (script message : String)
  | contextCreation (cause : CreationError)
  | substitution (cause : SubstitutionError)

def EvaluationError.message : EvaluationError → String
  | .argument script message =>
    "Argument out of bound while executing script '" ++ script ++ "': " ++ message
  | .scriptExecution script message =>
    "An error occurred while executing the script '" ++ script ++ "': " ++ message
  | .contextCreation cause => cause.message
  | .substitution cause => cause.message

/-- What an evaluation that failed answers. -/
def scriptErrorText : String := "Script error (check console)"

structure Evaluator where
  pool : Pool
  server : Server := {}
  expansion : ExpansionInfo := {}

namespace Evaluator

def new (factory : Factory) (server : Server) : Evaluator :=
  { pool := { factory := factory.withExtension }, server }

/-- Answers what a script asks its host, from its store. -/
def reply (store : Store) : (call : Script.HostCall) → Program (call.Reply × Store)
  | .get key => return (store.get? key, store)
  | .set key value => return ((), (store.set key value).2)
  | .remove key => return store.remove key
  | .clear => return ((), store.clear)
  | .keys => return (store.values.keys, store)
  | .save => do return (← store.save, store)
  | .substitute form identity text => do return (← Program.substitute form identity text, store)

/-- What every evaluation of a definition sees. -/
def defaultBindings (evaluator : Evaluator) (d : Definition) : Bindings :=
  .ofList [
    ("Data", .host .data),
    ("DataVar", .ofDatum (.map d.data.values.entries)),
    ("BukkitServer", .host (.server evaluator.server)),
    ("Expansion", .host (.expansion evaluator.expansion)),
    ("Placeholder", .host (.placeholder d.identifier d.template)),
    ("PlaceholderAPI", .host .substitution)]

/-- What only this evaluation sees: the arguments and the requester. -/
def callBindings (identity : Identity) (args : List String) : Bindings :=
  let player := match identity.onlinePlayer? with
    | some p => [("BukkitPlayer", .host (.player p)), ("Player", .host (.player p))]
    | none => []
  let offline := match identity.offlineView? with
    | some p => .host (.offlinePlayer p)
    | none => .unit
  .ofList (("args", .list (args.map .text)) :: player ++ [("OfflinePlayer", offline)])

/-- Substitutes in arguments one after the other, up to the first failure. Empty ones are left alone. -/
def substituteAll (identity : Identity) :
    List String → Program (Except SubstitutionError (List String))
  | [] => return .ok []
  | arg :: rest => do
    let reply ← if arg.isEmpty then pure (.ok arg) else Program.substitute .bracket identity arg
    match reply with
    | .error e => return .error e
    | .ok first =>
      match ← substituteAll identity rest with
      | .error e => return .error e
      | .ok others => return .ok (first :: others)

/-- The template with its placeholders substituted. -/
def scan (identity : Identity) (template : String) : Program (Except SubstitutionError String) :=
  ExceptT.run (Template.scan
    (fun token => ExceptT.mk (Program.substitute .percent identity token)) template)

/-- The error for a script that failed. -/
def failure (d : Definition) (argumentCount : Nat) (e : ExecutionError) : EvaluationError :=
  match e with
  | .indexOutOfBounds length _ =>
    if length = argumentCount then .argument d.identifier e.message
    else .scriptExecution d.identifier e.message
  | .script message => .scriptExecution d.identifier message

/-- The text of a result with its placeholders substituted; empty for unit. -/
def resultText (identity : Identity) (v : Script.Value) : Program (Except SubstitutionError String) :=
  match v with
  | .unit => return .ok ""
  | v => Program.substitute .bracket identity v.resultText

/-- Executes a definition's script, and gives its result and what became of the definition. -/
def execute (evaluator : Evaluator) (worker : Worker) (d : Definition) (identity : Identity)
    (args : List String) (script : String) :
    Program (Except EvaluationError String × Definition × Evaluator) := do
  match evaluator.pool.acquire worker (evaluator.defaultBindings d) with
  | (.error e, pool) => return (.error (.contextCreation e), d, { evaluator with pool })
  | (.ok context, pool) =>
    let evaluator := { evaluator with pool }
    let (result, data) ←
      Dialogue.relay reply (context.execute (callBindings identity args) script) d.data
    let d := { d with data }
    match result with
    | .error e => return (.error (failure d args.length e), d, evaluator)
    | .ok v =>
      match ← resultText identity v with
      | .error e => return (.error (.substitution e), d, evaluator)
      | .ok text => return (.ok text, d, evaluator)

/-- Substitutes in the template and in the arguments, and executes the script. -/
def compute (evaluator : Evaluator) (worker : Worker) (d : Definition) (identity : Identity)
    (args : List String) : Program (Except EvaluationError String × Definition × Evaluator) := do
  match ← scan identity d.template with
  | .error e => return (.error (.substitution e), d, evaluator)
  | .ok script =>
    match ← substituteAll identity args with
    | .error e => return (.error (.substitution e), d, evaluator)
    | .ok args => evaluator.execute worker d identity args script

/-- Whose bucket a call uses and under which key; nothing where results are not kept. -/
def cacheKeys? (d : Definition) (identity : Identity) (args : List String) :
    Option (RequesterKey × String) :=
  if d.policy.isEnabled then
    some (RequesterKey.resolve d.policy identity.uniqueId?, argumentKey args)
  else none

/-- The cached answer to a call, if there is one. -/
def consult (d : Definition) :
    Option (RequesterKey × String) → Program (Option String × Definition)
  | none => return (none, d)
  | some (requester, key) => do
    let (hit, cache) := d.cache.lookup requester key (← Program.now)
    return (hit, { d with cache })

/-- Keeps the answer to a call. -/
def keep (d : Definition) (text : String) : Option (RequesterKey × String) → Program Definition
  | none => return d
  | some (requester, key) => do
    return { d with cache := d.cache.store requester key text (← Program.now) }

/-- Evaluates a definition without looking into its cache, and keeps the answer. -/
def perform (evaluator : Evaluator) (worker : Worker) (d : Definition) (identity : Identity)
    (args : List String) (keys : Option (RequesterKey × String)) :
    Program (Except EvaluationError String × Definition × Evaluator) := do
  match ← evaluator.compute worker d identity args with
  | (.error e, d, evaluator) => return (.error e, d, evaluator)
  | (.ok text, d, evaluator) => return (.ok text, ← keep d text keys, evaluator)

/-- Evaluates a definition, unless the answer is cached. -/
def tryEvaluate (evaluator : Evaluator) (worker : Worker) (d : Definition) (identity : Identity)
    (args : List String) : Program (Except EvaluationError String × Definition × Evaluator) := do
  let keys := cacheKeys? d identity args
  match ← consult d keys with
  | (some hit, d) => return (.ok hit, d, evaluator)
  | (none, d) => evaluator.perform worker d identity args keys

/-- Of a definition, executing its script changes nothing but the data. -/
theorem execute_ensures (evaluator : Evaluator) (worker : Worker) (d : Definition)
    (identity : Identity) (args : List String) (script : String) :
    (evaluator.execute worker d identity args script).Ensures
      fun r => ∃ data, r.2.1 = { d with data } := by
  unfold execute
  split
  · exact ⟨d.data, rfl⟩
  · refine Dialogue.ensures_bind _ fun (result, data) => ?_
    cases result with
    | error e => exact ⟨data, rfl⟩
    | ok v =>
      refine Dialogue.ensures_bind _ fun text => ?_
      cases text with
      | error e => exact ⟨data, rfl⟩
      | ok text => exact ⟨data, rfl⟩

/-- Of a definition, an evaluation changes nothing but the data until its answer is kept. -/
theorem compute_ensures (evaluator : Evaluator) (worker : Worker) (d : Definition)
    (identity : Identity) (args : List String) :
    (evaluator.compute worker d identity args).Ensures
      fun r => ∃ data, r.2.1 = { d with data } := by
  refine Dialogue.ensures_bind _ fun scanned => ?_
  cases scanned with
  | error e => exact ⟨d.data, rfl⟩
  | ok script =>
    refine Dialogue.ensures_bind _ fun substituted => ?_
    cases substituted with
    | error e => exact ⟨d.data, rfl⟩
    | ok args => exact execute_ensures evaluator worker d identity args script

theorem consult_ensures_policy (d : Definition) (keys : Option (RequesterKey × String)) :
    (consult d keys).Ensures fun r => r.2.policy = d.policy := by
  cases keys with
  | none => exact rfl
  | some keys => exact fun now => ResultCache.policy_lookup d.cache keys.1 keys.2 now

theorem perform_ensures_policy (evaluator : Evaluator) (worker : Worker) (d : Definition)
    (identity : Identity) (args : List String) (keys : Option (RequesterKey × String)) :
    (evaluator.perform worker d identity args keys).Ensures fun r => r.2.1.policy = d.policy := by
  refine (compute_ensures evaluator worker d identity args).bind ?_
  rintro ⟨result, _, evaluator'⟩ ⟨data, rfl⟩
  cases result with
  | error e => exact rfl
  | ok text =>
    cases keys with
    | none => exact rfl
    | some keys => exact fun now => rfl

theorem tryEvaluate_ensures_policy (evaluator : Evaluator) (worker : Worker) (d : Definition)
    (identity : Identity) (args : List String) :
    (evaluator.tryEvaluate worker d identity args).Ensures fun r => r.2.1.policy = d.policy := by
  refine (consult_ensures_policy d _).bind ?_
  rintro ⟨hit, d'⟩ hpolicy
  cases hit with
  | some hit => exact hpolicy
  | none =>
    rw [← hpolicy]
    exact perform_ensures_policy evaluator worker d' identity args _

/-- The answer to an evaluation, which hides why it failed. -/
def answer : Except EvaluationError String → String
  | .ok text => text
  | .error _ => scriptErrorText

/-- Evaluates a definition to a text in any case. -/
def evaluate (evaluator : Evaluator) (worker : Worker) (d : Definition) (identity : Identity)
    (args : List String) : Program (String × Definition × Evaluator) := do
  let (result, d, evaluator) ← evaluator.tryEvaluate worker d identity args
  return (answer result, d, evaluator)

end Evaluator

end PlaceholderScripts
