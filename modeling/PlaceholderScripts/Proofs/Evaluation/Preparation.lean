import PlaceholderScripts.Proofs.Evaluation.Failure
import PlaceholderScripts.Proofs.Evaluation.Moments
import PlaceholderScripts.Proofs.Surroundings.Files
import PlaceholderScripts.Proofs.Template.Scanning

/-!
# What comes before a script

Before its script is executed, a call hands texts to the substitution service: first the placeholders of the
template and then the arguments that are not empty, each in its turn. The first text that the service fails on
ends the call, with nothing done but the look into the cache. Where the service fails on none, the script is
executed with all arguments in their places.
-/

namespace PlaceholderScripts

namespace Evaluator

/-- The texts that are handed to the service before a script is executed. -/
def handed (template : String) (args : List String) : List (TokenForm × String) :=
  (Template.placeholders template).map (.percent, ·) ++ (args.filter (!·.isEmpty)).map (.bracket, ·)

/-- Arguments with values in the places of those that are not empty. -/
def prepared : List String → List String → List String
  | [], _ => []
  | arg :: rest, values =>
    if arg.isEmpty then arg :: prepared rest values
    else values.headD arg :: prepared rest values.tail

def filledIn (template : String) (values : List String) : String :=
  String.ofList (Template.fillIn (Template.segments template) values)

def request (identity : Identity) (text : TokenForm × String) : Request :=
  .substitute text.1 identity text.2

/-- What the service does with a text. -/
def service {σ : Type} (reply : σ → (q : Request) → q.Reply × σ) (identity : Identity)
    (text : TokenForm × String) (s : σ) : Except SubstitutionError String × σ :=
  reply s (request identity text)

/-- Hands over a text, and ends where the service fails. -/
def handOver (identity : Identity) (text : TokenForm × String) :
    ExceptT SubstitutionError (Dialogue Request Request.Reply) String :=
  ExceptT.mk (Program.substitute text.1 identity text.2)

section Prepared

variable (args values : List String)

@[simp] theorem length_prepared : (prepared args values).length = args.length := by
  induction args generalizing values with
  | nil => rfl
  | cons arg rest ih =>
    rw [prepared]
    split <;> simp [ih]

theorem eq_empty_of_mem_zip_prepared :
    ∀ p ∈ args.zip (prepared args values), p.1 = "" → p.2 = "" := by
  induction args generalizing values with
  | nil => simp
  | cons arg rest ih =>
    rw [prepared]
    intro p hp hempty
    split at hp
    · rcases List.mem_cons.mp hp with rfl | hrest
      · exact hempty
      · exact ih values p hrest hempty
    · next hne =>
      rcases List.mem_cons.mp hp with rfl | hrest
      · exact absurd (String.isEmpty_iff.mpr hempty) hne
      · exact ih values.tail p hrest hempty

/-- The values stand in the places of the arguments that are not empty, in the same order. -/
theorem filter_zip_prepared (h : values.length = (args.filter (!·.isEmpty)).length) :
    (args.zip (prepared args values)).filter (!·.1.isEmpty) =
      (args.filter (!·.isEmpty)).zip values := by
  induction args generalizing values with
  | nil => rfl
  | cons arg rest ih =>
    rw [prepared]
    cases hempty : arg.isEmpty with
    | true =>
      simp only [hempty, if_true, List.zip_cons_cons, List.filter_cons] at h ⊢
      simpa using ih values (by simpa using h)
    | false =>
      simp only [List.filter_cons, hempty] at h ⊢
      cases values with
      | nil => simp at h
      | cons value values =>
        have hlength : values.length = (rest.filter (!·.isEmpty)).length := by simpa using h
        simpa [hempty] using ih values hlength

end Prepared

/-- A scan hands over the placeholders, and fills in what comes back. -/
theorem scan_eq_mapM (identity : Identity) (template : String) :
    ExceptT.mk (scan identity template) =
      filledIn template <$>
        ((Template.placeholders template).map (.percent, ·)).mapM (handOver identity) := by
  rw [List.mapM_map]
  exact Template.scan_eq_mapM _ template

section SubstituteAll

variable (identity : Identity) {arg : String} (rest : List String)

theorem substituteAll_cons_of_isEmpty (h : arg.isEmpty = true) :
    ExceptT.mk (substituteAll identity (arg :: rest)) =
      (arg :: ·) <$> ExceptT.mk (substituteAll identity rest) := by
  ext
  rw [ExceptT.run_map, ExceptT.run_mk, ExceptT.run_mk, map_eq_pure_bind, substituteAll, if_pos h,
    pure_bind]
  refine bind_congr fun others => ?_
  cases others <;> rfl

theorem substituteAll_cons_of_not_isEmpty (h : arg.isEmpty = false) :
    ExceptT.mk (substituteAll identity (arg :: rest)) =
      (do
        let first ← handOver identity (.bracket, arg)
        (first :: ·) <$> ExceptT.mk (substituteAll identity rest)) := by
  have hne : ¬ arg.isEmpty = true := by rw [h]; exact Bool.false_ne_true
  ext
  rw [ExceptT.run_bind, ExceptT.run_mk, handOver, ExceptT.run_mk, substituteAll, if_neg hne]
  refine bind_congr fun first => ?_
  cases first with
  | error e => rfl
  | ok first =>
    change _ = ((first :: ·) <$> ExceptT.mk (substituteAll identity rest)).run
    rw [ExceptT.run_map, ExceptT.run_mk, map_eq_pure_bind]
    refine bind_congr fun others => ?_
    cases others <;> rfl

/-- The arguments that are not empty are handed over, and the values come into their places. -/
theorem substituteAll_eq_mapM (args : List String) :
    ExceptT.mk (substituteAll identity args) =
      prepared args <$>
        ((args.filter (!·.isEmpty)).map (.bracket, ·)).mapM (handOver identity) := by
  induction args with
  | nil => rfl
  | cons arg rest ih =>
    cases hempty : arg.isEmpty with
    | true =>
      rw [substituteAll_cons_of_isEmpty identity rest hempty, ih,
        List.filter_cons_of_neg (by simp [hempty])]
      simp [prepared, hempty]
    | false =>
      rw [substituteAll_cons_of_not_isEmpty identity rest hempty, ih,
        List.filter_cons_of_pos (by simp [hempty]), List.map_cons, List.mapM_cons]
      simp [prepared, hempty]

end SubstituteAll

section Stages

variable {σ : Type} {reply : σ → (q : Request) → q.Reply × σ} {identity : Identity}
  {template : String} {args values : List String} {called : List (TokenForm × String)}
  {e : SubstitutionError} {s s' : σ}

theorem run_scan_of_allSucceed
    (h : AllSucceed (service reply identity) s ((Template.placeholders template).map (.percent, ·))
      values s') :
    Dialogue.run reply (scan identity template) s = (.ok (filledIn template values), s') :=
  (Dialogue.threading reply).run_of_eq_mapM_of_allSucceed (scan_eq_mapM identity template) h

theorem run_scan_of_failsFirst
    (h : FailsFirst (service reply identity) s ((Template.placeholders template).map (.percent, ·))
      called e s') :
    Dialogue.run reply (scan identity template) s = (.error e, s') :=
  (Dialogue.threading reply).run_of_eq_mapM_of_failsFirst (scan_eq_mapM identity template) h

theorem run_substituteAll_of_allSucceed
    (h : AllSucceed (service reply identity) s ((args.filter (!·.isEmpty)).map (.bracket, ·)) values s') :
    Dialogue.run reply (substituteAll identity args) s = (.ok (prepared args values), s') :=
  (Dialogue.threading reply).run_of_eq_mapM_of_allSucceed (substituteAll_eq_mapM identity args) h

theorem run_substituteAll_of_failsFirst
    (h : FailsFirst (service reply identity) s ((args.filter (!·.isEmpty)).map (.bracket, ·))
      called e s') :
    Dialogue.run reply (substituteAll identity args) s = (.error e, s') :=
  (Dialogue.threading reply).run_of_eq_mapM_of_failsFirst (substituteAll_eq_mapM identity args) h

variable (evaluator : Evaluator) (worker : Worker) (d : Definition)

theorem run_compute_of_failsFirst
    (h : FailsFirst (service reply identity) s (handed d.template args) called e s') :
    Dialogue.run reply (evaluator.compute worker d identity args) s =
      ((.error (.substitution e), d, evaluator), s') := by
  rw [compute, Dialogue.bind_eq, Dialogue.run_bind]
  rcases h.of_append with hscan | ⟨tokens, middle, rest, hscan, hargs⟩
  · rw [run_scan_of_failsFirst hscan]
    rfl
  · rw [run_scan_of_allSucceed hscan]
    change Dialogue.run reply (Dialogue.bind (substituteAll identity args) _) middle = _
    rw [Dialogue.run_bind, run_substituteAll_of_failsFirst hargs]
    rfl

/-- Where the service fails on no text, the computation is the execution of the filled in script with the
prepared arguments. -/
theorem run_compute_of_allSucceed {tokens : List String}
    (htokens : tokens.length = (Template.placeholders d.template).length)
    (h : AllSucceed (service reply identity) s (handed d.template args) (tokens ++ values) s') :
    Dialogue.run reply (evaluator.compute worker d identity args) s =
      Dialogue.run reply
        (evaluator.execute worker d identity (prepared args values) (filledIn d.template tokens)) s' := by
  obtain ⟨tokens', values', middle, hsplit, hscan, hargs⟩ := h.exists_append
  have hlength := hscan.length_eq
  rw [List.length_map, ← htokens] at hlength
  obtain ⟨rfl, rfl⟩ := List.append_inj hsplit hlength.symm
  rw [compute, Dialogue.bind_eq, Dialogue.run_bind, run_scan_of_allSucceed hscan]
  change Dialogue.run reply (Dialogue.bind (substituteAll identity args) _) middle = _
  rw [Dialogue.run_bind, run_substituteAll_of_allSucceed hargs]

theorem asked_compute_of_failsFirst
    (h : FailsFirst (service reply identity) s (handed d.template args) called e s') :
    (evaluator.compute worker d identity args).asked reply s = called.map (request identity) := by
  have hlogged : Dialogue.run (Dialogue.loggedReply reply)
      (evaluator.compute worker d identity args) (s, []) = _ :=
    run_compute_of_failsFirst evaluator worker d (h.logged (request identity) [])
  rw [Dialogue.run_loggedReply] at hlogged
  exact congrArg (·.2.2) hlogged

theorem asked_compute_of_allSucceed {tokens : List String}
    (htokens : tokens.length = (Template.placeholders d.template).length)
    (h : AllSucceed (service reply identity) s (handed d.template args) (tokens ++ values) s') :
    (evaluator.compute worker d identity args).asked reply s =
      (handed d.template args).map (request identity) ++
        (evaluator.execute worker d identity (prepared args values)
          (filledIn d.template tokens)).asked reply s' := by
  have hlogged : Dialogue.run (Dialogue.loggedReply reply)
      (evaluator.compute worker d identity args) (s, []) = _ :=
    run_compute_of_allSucceed evaluator worker d htokens (h.logged (request identity) [])
  rw [Dialogue.run_loggedReply, Dialogue.run_loggedReply] at hlogged
  exact congrArg (·.2.2) hlogged

end Stages

/-- What is left to do with a result: a text is kept. -/
def finish (keys : Option (RequesterKey × String)) :
    Except EvaluationError String × Definition × Evaluator →
      Program (Except EvaluationError String × Definition × Evaluator)
  | (.error e, d, evaluator) => return (.error e, d, evaluator)
  | (.ok text, d, evaluator) => do return (.ok text, ← keep d text keys, evaluator)

theorem perform_eq_compute_bind (evaluator : Evaluator) (worker : Worker) (d : Definition)
    (identity : Identity) (args : List String) (keys : Option (RequesterKey × String)) :
    evaluator.perform worker d identity args keys =
      (evaluator.compute worker d identity args).bind (finish keys) := by
  rw [perform, Dialogue.bind_eq]
  congr

theorem run_read_args (identity : Identity) (args : List String) (others : List Script.Variable)
    (l : Script.Location) :
    let state : Script.State := { scope := Pool.boundVariables (callBindings identity args) ++ others }
    (Script.Run.read "args" l).run.run state = .done (.ok (.list (args.map .text)), state) := by
  intro state
  have hfound : state.scope.find? (fun v => v.name = "args") = _ := find?_args identity args others
  exact Script.Run.ends_read hfound l

end Evaluator

namespace Session

variable {σ : Type} {reply : σ → (q : Request) → q.Reply × σ} {x : Session σ} {c : Call}

theorem asked_of_executes (h : x.executes reply c = true) :
    (x.attempt c).asked reply x.surroundings =
      x.looked ++
        Dialogue.asked reply
          (x.evaluator.perform c.worker (x.recalled reply c).1.2 c.identity c.args
            (Evaluator.cacheKeys? x.definition c.identity c.args))
          (x.recalled reply c).2 := by
  rw [asked_eq, resumed_of_executes h]

variable (reply) in
theorem recalled_definition (x : Session σ) (c : Call) :
    (x.recalled reply c).1.2 =
      { x.definition with cache := (x.recalled reply c).1.2.cache } := by
  cases henabled : x.definition.policy.isEnabled with
  | false => rw [recalled_of_disabled henabled]
  | true => rw [recalled_of_enabled henabled]

theorem entryAt?_recalled_of_live (x : Session σ) (c : Call) (requester : RequesterKey) (key : String)
    {entry : CacheEntry} (hlive : entry.isExpired (x.now reply) = false) :
    (x.recalled reply c).1.2.cache.entryAt? requester key = some entry ↔
      x.definition.cache.entryAt? requester key = some entry := by
  rcases entryAt?_recalled reply x c requester key with hsame | ⟨-, hfiltered⟩
  · rw [hsame]
  · rw [hfiltered, Option.filter_eq_some_iff, hlive]
    exact and_iff_left rfl

/-- The call ends with a failure of the service. Nothing was asked for but the time and these substitutions, no
interpreter was made, and the data, the live results and the files are as they were. -/
structure Aborts (reply : σ → (q : Request) → q.Reply × σ) (x : Session σ) (c : Call)
    (called : List (TokenForm × String)) (e : SubstitutionError) (s' : σ) : Prop where
  outcome : x.outcome reply c =
    ((.error (.substitution e),
      { x.definition with cache := (x.outcome reply c).1.2.1.cache }, x.evaluator), s')
  asked : (x.attempt c).asked reply x.surroundings =
    x.looked ++ called.map (Evaluator.request c.identity)
  live : ∀ requester key entry, entry.isExpired (x.now reply) = false →
    ((x.outcome reply c).1.2.1.cache.entryAt? requester key = some entry ↔
      x.definition.cache.entryAt? requester key = some entry)
  files : ∀ files, SteadyFiles reply files → files s' = files x.surroundings

/-- What a call executes with values for its placeholders and with arguments. -/
def execution (reply : σ → (q : Request) → q.Reply × σ) (x : Session σ) (c : Call)
    (tokens args : List String) : Program (Except EvaluationError String × Definition × Evaluator) :=
  (x.evaluator.execute c.worker (x.recalled reply c).1.2 c.identity args
    (Evaluator.filledIn x.definition.template tokens)).bind
      (Evaluator.finish (Evaluator.cacheKeys? x.definition c.identity c.args))

/-- The script is executed, and finds under `args` one argument for each of the call's: empty ones where they
were, and values in the places of the others. -/
structure Proceeds (reply : σ → (q : Request) → q.Reply × σ) (x : Session σ) (c : Call)
    (tokens values args : List String) (s' : σ) : Prop where
  outcome : x.outcome reply c = (x.execution reply c tokens args).run reply s'
  asked : (x.attempt c).asked reply x.surroundings =
    x.looked ++ ((Evaluator.handed x.definition.template c.args).map (Evaluator.request c.identity) ++
      (x.execution reply c tokens args).asked reply s')
  length : args.length = c.args.length
  empty : ∀ p ∈ c.args.zip args, p.1 = "" → p.2 = ""
  values : (c.args.zip args).filter (!·.1.isEmpty) = (c.args.filter (!·.isEmpty)).zip values
  reading : ∀ others l,
    let state : Script.State :=
      { scope := Pool.boundVariables (Evaluator.callBindings c.identity args) ++ others }
    (Script.Run.read "args" l).run.run state = .done (.ok (.list (args.map .text)), state)

section

variable (h : x.executes reply c = true) {s' : σ}
include h

theorem aborts_of_failsFirst {called : List (TokenForm × String)} {e : SubstitutionError}
    (hfails : FailsFirst (Evaluator.service reply c.identity) (x.recalled reply c).2
      (Evaluator.handed x.definition.template c.args) called e s') :
    x.Aborts reply c called e s' := by
  have hd := recalled_definition reply x c
  have hfails' : FailsFirst (Evaluator.service reply c.identity) (x.recalled reply c).2
      (Evaluator.handed (x.recalled reply c).1.2.template c.args) called e s' := by rwa [hd]
  have hcompute := Evaluator.run_compute_of_failsFirst x.evaluator c.worker _ hfails'
  have houtcome : x.outcome reply c =
      ((.error (.substitution e), (x.recalled reply c).1.2, x.evaluator), s') := by
    rw [outcome_of_executes h, Evaluator.perform_eq_compute_bind, Dialogue.run_bind, hcompute]
    rfl
  have hasked : (x.attempt c).asked reply x.surroundings =
      x.looked ++ called.map (Evaluator.request c.identity) := by
    rw [asked_of_executes h, Evaluator.perform_eq_compute_bind, Dialogue.asked_bind,
      Evaluator.asked_compute_of_failsFirst x.evaluator c.worker _ hfails', hcompute]
    exact congrArg _ (List.append_nil _)
  refine ⟨?_, hasked, ?_, ?_⟩
  · rw [houtcome, ← hd]
  · rw [houtcome]
    exact fun requester key _ hlive => entryAt?_recalled_of_live x c requester key hlive
  · intro files hfiles
    have hreading : ∀ q ∈ (x.attempt c).asked reply x.surroundings, ¬ q.IsWriting := by
      rw [hasked, looked]
      intro q hq
      rcases List.mem_append.mp hq with hnow | hsubstitution
      · split at hnow
        · obtain rfl := List.mem_singleton.mp hnow
          exact id
        · exact absurd hnow List.not_mem_nil
      · obtain ⟨text, -, rfl⟩ := List.mem_map.mp hsubstitution
        exact id
    have hsteady : files (x.outcome reply c).2 = files x.surroundings := hfiles.run_of_asked hreading
    rwa [houtcome] at hsteady

theorem proceeds_of_allSucceed {tokens values : List String}
    (htokens : tokens.length = (Template.placeholders x.definition.template).length)
    (hsucceed : AllSucceed (Evaluator.service reply c.identity) (x.recalled reply c).2
      (Evaluator.handed x.definition.template c.args) (tokens ++ values) s') :
    x.Proceeds reply c tokens values (Evaluator.prepared c.args values) s' := by
  have htemplate : (x.recalled reply c).1.2.template = x.definition.template := by
    rw [recalled_definition]
  rw [← htemplate] at htokens hsucceed
  have hcompute := Evaluator.run_compute_of_allSucceed x.evaluator c.worker _ htokens hsucceed
  have hasked := Evaluator.asked_compute_of_allSucceed x.evaluator c.worker _ htokens hsucceed
  refine ⟨?outcome, ?asked, Evaluator.length_prepared _ _, Evaluator.eq_empty_of_mem_zip_prepared _ _,
    Evaluator.filter_zip_prepared _ _ ?values, fun others l => Evaluator.run_read_args _ _ others l⟩
  case outcome =>
    rw [outcome_of_executes h, Evaluator.perform_eq_compute_bind, Dialogue.run_bind, hcompute,
      execution, Dialogue.run_bind, htemplate]
  case asked =>
    rw [asked_of_executes h, Evaluator.perform_eq_compute_bind, Dialogue.asked_bind, hcompute, hasked,
      execution, Dialogue.asked_bind, htemplate, List.append_assoc]
  case values =>
    have hlength := hsucceed.length_eq
    simp only [Evaluator.handed, List.length_append, List.length_map, htokens] at hlength
    omega

end

variable (reply) in
/-- A call that does not find its answer in the cache hands the placeholders of its template to the service and
then its arguments that are not empty, each in its turn, up to the first one that the service fails on. The call
ends with this failure and has no effect. Otherwise the script is executed, and finds all arguments. Where a
service always does the same with a text, the failure is that of the first text on which it fails. -/
theorem substitution_failures_are_clean (x : Session σ) (c : Call) (h : x.executes reply c = true) :
    let s := (x.recalled reply c).2
    let placeholders := Template.placeholders x.definition.template
    let texts := Evaluator.handed x.definition.template c.args
    let service := Evaluator.service reply c.identity
    (∀ text ∈ texts, text ≠ (.bracket, "")) ∧
    ((∃ called e s', FailsFirst service s texts called e s') ∨
      ∃ tokens values s', tokens.length = placeholders.length ∧
        AllSucceed service s texts (tokens ++ values) s') ∧
    (∀ called e s', FailsFirst service s texts called e s' → x.Aborts reply c called e s') ∧
    (∀ tokens values s', tokens.length = placeholders.length →
      AllSucceed service s texts (tokens ++ values) s' →
      ∃ args, x.Proceeds reply c tokens values args s') ∧
    ∀ (results : TokenForm × String → Except SubstitutionError String) (steady : σ → Prop), steady s →
      (∀ text t, steady t → (service text t).1 = results text ∧ steady (service text t).2) →
      ∀ before text after e, texts = before ++ text :: after →
        (∀ t ∈ before, ∃ value, results t = .ok value) → results text = .error e →
        ∃ s', x.Aborts reply c (before ++ [text]) e s' := by
  intro s placeholders texts service
  refine ⟨?handed, ?turns, fun _ _ _ hfails => aborts_of_failsFirst h hfails,
    fun _ _ _ htokens hsucceed => ⟨_, proceeds_of_allSucceed h htokens hsucceed⟩, ?first⟩
  case handed =>
    rintro text htext rfl
    simp [texts, Evaluator.handed] at htext
  case turns =>
    rcases allSucceed_or_failsFirst service s texts with ⟨values, s', hsucceed⟩ | hfails
    · obtain ⟨tokens, values, t, rfl, hscan, -⟩ := hsucceed.exists_append
      have htokens := hscan.length_eq
      rw [List.length_map] at htokens
      exact .inr ⟨tokens, values, s', htokens, hsucceed⟩
    · exact .inl hfails
  case first =>
    intro results steady hs hsteady before text after e hsplit hbefore htext
    obtain ⟨s', hfails⟩ := FailsFirst.of_results hsteady hbefore htext after hs
    rw [← hsplit] at hfails
    exact ⟨s', aborts_of_failsFirst h hfails⟩

def refusingService : SubstitutionService :=
  fun _ _ text => if text = "bad" then .error ⟨text⟩ else .ok text

/-- A script with one placeholder. The result of another call is live. -/
def refusing : Session World :=
  let cache := (ResultCache.new .static).store .shared "other" "theirs" .zero
  start (.new { library := ⟨[]⟩, rounds := 10 } {})
    { Definition.ephemeral "refusing" "args[1] + %a%" with cache } ⟨⟨[], []⟩, .zero, refusingService⟩

/-- The third argument is refused. The second one is empty and is not handed over, and neither is the fourth. -/
theorem substitution_failures_are_clean_refused :
    let c : Call := ⟨0, .anonymous, ["x", "", "bad", "y"]⟩
    refusing.executes World.reply c = true ∧
      ∃ s', refusing.Aborts World.reply c
        [(.percent, "%a%"), (.bracket, "x"), (.bracket, "bad")] ⟨"bad"⟩ s' := by
  intro c
  have hexecutes : refusing.executes World.reply c = true := by decide +kernel
  have htexts : Evaluator.handed refusing.definition.template c.args =
      [(.percent, "%a%"), (.bracket, "x")] ++ (.bracket, "bad") :: [(.bracket, "y")] := by
    decide +kernel
  have hbefore : ∀ text ∈ [(TokenForm.percent, "%a%"), (.bracket, "x")], ∃ value,
      refusingService text.1 c.identity text.2 = .ok value := by
    simp [refusingService]
  have hsteady : ∀ (text : TokenForm × String) (world : World), world.service = refusingService →
      (Evaluator.service World.reply c.identity text world).1 =
          refusingService text.1 c.identity text.2 ∧
        (Evaluator.service World.reply c.identity text world).2.service = refusingService := by
    intro text world hservice
    rw [← hservice]
    exact ⟨rfl, rfl⟩
  have hclean := substitution_failures_are_clean World.reply refusing c hexecutes
  exact ⟨hexecutes, hclean.2.2.2.2 (fun text => refusingService text.1 c.identity text.2)
    (fun world => world.service = refusingService) rfl hsteady _ _ _ _ htexts hbefore rfl⟩

end Session

end PlaceholderScripts
