import Mathlib.Logic.Function.Basic
import PlaceholderScripts.Proofs.Evaluation.Session

/-!
# Evaluations that overlap

An evaluation looks into the cache, and if there is no answer it runs the script and stores the result. Other
evaluations of the same definition may begin and end in between, and so may cleanings of the cache. So two
evaluations with the same keys may both run the script, and each stores its own result. What comes
from the cache is still always a result that an earlier evaluation stored under the same keys, and no
result is lost before it expires but to a later one under its keys.
-/

namespace PlaceholderScripts

structure Underway where
  call : Call
  keys : Option (RequesterKey × String)

structure Overlap (σ : Type) extends Session σ where
  pending : Nat → Option Underway := fun _ => none

inductive OverlapStep (σ : Type) where
  /-- An evaluation begins with a look into the cache. -/
  | look (ticket : Nat) (call : Call)
  /-- Scripts run, and other things happen that do not touch the cache. -/
  | elapse (evaluator : Evaluator) (data : Store) (change : σ → σ)
  /-- The script of an evaluation under way has ended, and its result is stored, if it has one. -/
  | finish (ticket : Nat) (result : Except EvaluationError String)
  /-- The cache is cleaned by a reading of the clock. -/
  | purge (now : Instant)

namespace Overlap

variable {σ : Type} (reply : σ → (q : Request) → q.Reply × σ) (time : σ → Instant)

def start (evaluator : Evaluator) (definition : Definition) (surroundings : σ) : Overlap σ :=
  { Session.start evaluator definition surroundings with }

def look (x : Overlap σ) (ticket : Nat) (c : Call) : Overlap σ :=
  let keys := Evaluator.cacheKeys? x.definition c.identity c.args
  match x.recalled reply c with
  | ((some text, definition), surroundings) =>
    { x with definition, surroundings, past := ⟨c, false, .ok text, time surroundings⟩ :: x.past }
  | ((none, definition), surroundings) =>
    { x with
      definition, surroundings
      pending := Function.update x.pending ticket (some ⟨c, keys⟩) }

def finish (x : Overlap σ) (ticket : Nat) (result : Except EvaluationError String) : Overlap σ :=
  match x.pending ticket with
  | none => x
  | some e =>
    let pending := Function.update x.pending ticket none
    match result with
    | .error error =>
      { x with pending, past := ⟨e.call, true, .error error, time x.surroundings⟩ :: x.past }
    | .ok text =>
      let (definition, surroundings) :=
        Dialogue.run reply (Evaluator.keep x.definition text e.keys) x.surroundings
      { x with
        definition, surroundings, pending
        past := ⟨e.call, true, .ok text, time surroundings⟩ :: x.past }

def step (x : Overlap σ) : OverlapStep σ → Overlap σ
  | .look ticket c => x.look reply time ticket c
  | .elapse evaluator data change =>
    { x with
      evaluator
      definition := { x.definition with data }
      surroundings := change x.surroundings }
  | .finish ticket result => x.finish reply time ticket result
  | .purge now =>
    { x with definition := { x.definition with cache := (x.definition.cache.purgeExpired now).2 } }

def run (x : Overlap σ) (steps : List (OverlapStep σ)) : Overlap σ := steps.foldl (step reply time) x

/-- Nothing sets the clock back, and cleanings go by readings that the clock has had. -/
def InTime (x : Overlap σ) : OverlapStep σ → Prop
  | .elapse _ _ change => (time x.surroundings).nanos ≤ (time (change x.surroundings)).nanos
  | .purge now => now.nanos ≤ (time x.surroundings).nanos
  | _ => True

def InClockOrder (x : Overlap σ) : List (OverlapStep σ) → Prop
  | [] => True
  | s :: rest => x.InTime time s ∧ (x.step reply time s).InClockOrder rest

variable {reply} {time} {x : Overlap σ} {ticket : Nat} {c : Call}

theorem look_of_hit (henabled : x.definition.policy.isEnabled = true) {text : String}
    (hhit : (x.found reply c).1 = some text) :
    x.look reply time ticket c =
      { x with
        definition := { x.definition with cache := (x.found reply c).2 }
        surroundings := (reply x.surroundings .now).2
        past := ⟨c, false, .ok text, time (reply x.surroundings .now).2⟩ :: x.past } := by
  rw [look, Session.recalled_of_enabled henabled, hhit]

theorem look_of_miss (henabled : x.definition.policy.isEnabled = true)
    (hmiss : (x.found reply c).1 = none) :
    x.look reply time ticket c =
      { x with
        definition := { x.definition with cache := (x.found reply c).2 }
        surroundings := (reply x.surroundings .now).2
        pending := Function.update x.pending ticket
          (some ⟨c, some (c.requester x.definition.policy, c.key)⟩) } := by
  rw [look, Session.recalled_of_enabled henabled, hmiss, Evaluator.cacheKeys?, if_pos henabled]
  rfl

theorem finish_of_ok {requester : RequesterKey} {key : String}
    (hticket : x.pending ticket = some ⟨c, some (requester, key)⟩) (text : String) :
    x.finish reply time ticket (.ok text) =
      { x with
        definition := { x.definition with
          cache := x.definition.cache.store requester key text (x.now reply) }
        surroundings := (reply x.surroundings .now).2
        pending := Function.update x.pending ticket none
        past := ⟨c, true, .ok text, time (reply x.surroundings .now).2⟩ :: x.past } := by
  rw [finish, hticket]
  rfl

theorem finish_of_error {keys : Option (RequesterKey × String)}
    (hticket : x.pending ticket = some ⟨c, keys⟩) (error : EvaluationError) :
    x.finish reply time ticket (.error error) =
      { x with
        pending := Function.update x.pending ticket none
        past := ⟨c, true, .error error, time x.surroundings⟩ :: x.past } := by
  rw [finish, hticket]

theorem finish_of_none (hticket : x.pending ticket = none) (result : Except EvaluationError String) :
    x.finish reply time ticket result = x := by
  rw [finish, hticket]

/-- The text of an answer from the cache was stored by an earlier call under the same keys. -/
def Grounded (policy : CachePolicy) (past : List CallRecord) : Prop :=
  ∀ later r earlier, past = later ++ r :: earlier → r.executed = false →
    ∃ b ∈ earlier, b.Succeeded ∧ b.result = r.result ∧
      b.call.requester policy = r.call.requester policy ∧ b.call.key = r.call.key

theorem Grounded.cons {policy : CachePolicy} {past : List CallRecord} (h : Grounded policy past)
    {r : CallRecord}
    (hr : r.executed = false → ∃ b ∈ past, b.Succeeded ∧ b.result = r.result ∧
      b.call.requester policy = r.call.requester policy ∧ b.call.key = r.call.key) :
    Grounded policy (r :: past) := by
  intro later r' earlier heq
  cases later with
  | nil =>
    obtain ⟨rfl, rfl⟩ := List.cons.inj heq
    exact hr
  | cons first rest => exact h rest r' earlier (List.cons.inj heq).2

/-- The results of the evaluations under way will be stored under the keys of their calls. -/
def Keyed (policy : CachePolicy) (pending : Nat → Option Underway) : Prop :=
  ∀ ticket c keys, pending ticket = some ⟨c, keys⟩ → keys = some (c.requester policy, c.key)

theorem Keyed.update {policy : CachePolicy} {pending : Nat → Option Underway} (h : Keyed policy pending)
    {new : Option Underway}
    (hnew : ∀ c keys, new = some ⟨c, keys⟩ → keys = some (c.requester policy, c.key)) (ticket : Nat) :
    Keyed policy (Function.update pending ticket new) := by
  intro other c keys hother
  by_cases hticket : other = ticket
  · subst hticket
    rw [Function.update_self] at hother
    exact hnew c keys hother
  · rw [Function.update_of_ne hticket] at hother
    exact h other c keys hother

/-- What holds of overlapping evaluations of a definition that began with an empty cache. -/
structure Sound (policy : CachePolicy) (time : σ → Instant) (x : Overlap σ) : Prop where
  policy_eq : x.definition.policy = policy
  keeps : x.definition.cache.Keeps (x.past.filterMap (CallRecord.deposit? policy)) (time x.surroundings)
  keyed : Keyed policy x.pending
  grounded : Grounded policy x.past

namespace Sound

variable {policy : CachePolicy}

theorem start (evaluator : Evaluator) {d : Definition} (hempty : d.cache.size = 0) (s : σ) :
    Sound d.policy time (start evaluator d s) where
  policy_eq := rfl
  keeps :=
    { represents := .of_entryAt?_eq_none (ResultCache.entryAt?_of_size_eq_zero hempty) (time s)
      ordered := .nil
      past := fun _ hdep => nomatch hdep }
  keyed := fun _ _ _ h => nomatch h
  grounded := by
    intro later r earlier hpast
    exact absurd hpast.symm (List.append_ne_nil_of_right_ne_nil later (List.cons_ne_nil r earlier))

theorem enabled (h : x.Sound policy time) (henabled : policy.isEnabled = true) :
    x.definition.policy.isEnabled = true := by
  rw [h.policy_eq]
  exact henabled

/-- A look finds the latest live result that a call has stored under the same keys. -/
theorem found_fst (hclock : ForwardClock reply time) (henabled : policy.isEnabled = true)
    (h : x.Sound policy time) (c : Call) :
    (x.found reply c).1 =
      ((x.past.filterMap (CallRecord.deposit? policy)).find?
        (c.isAnsweredBy policy (x.now reply))).map Deposit.value := by
  obtain ⟨rfl, hkeeps, -, -⟩ := h
  exact hkeeps.lookup_fst henabled (hclock.le_reading x.surroundings) _ _

theorem exists_of_found (hclock : ForwardClock reply time) (henabled : policy.isEnabled = true)
    (h : x.Sound policy time) {c : Call} {text : String} (hfound : (x.found reply c).1 = some text) :
    ∃ b ∈ x.past, b.Succeeded ∧ b.result = .ok text ∧
      b.call.requester policy = c.requester policy ∧ b.call.key = c.key := by
  rw [h.found_fst hclock henabled, Option.map_eq_some_iff] at hfound
  obtain ⟨dep, hdep, rfl⟩ := hfound
  have hanswers : c.isAnsweredBy policy (x.now reply) dep = true := List.find?_some hdep
  have hunder := of_decide_eq_true (Bool.and_eq_true_iff.mp hanswers).1
  obtain ⟨b, hb, hdeposit⟩ := List.mem_filterMap.mp (List.mem_of_find?_eq_some hdep)
  obtain ⟨hsucceeded, hresult⟩ := CallRecord.succeeded_of_deposit? hdeposit
  obtain ⟨hrequester, hkey, -⟩ := CallRecord.deposit?_eq_some hdeposit
  exact ⟨b, hb, hsucceeded, hresult, hrequester.symm.trans hunder.1, hkey.symm.trans hunder.2⟩

theorem look (hclock : ForwardClock reply time) (henabled : policy.isEnabled = true)
    (h : x.Sound policy time) (ticket : Nat) (c : Call) :
    (x.look reply time ticket c).Sound policy time := by
  have hpolicy : (x.found reply c).2.policy = policy :=
    (ResultCache.policy_lookup _ _ _ _).trans h.policy_eq
  have hkeeps : (x.found reply c).2.Keeps (x.past.filterMap (CallRecord.deposit? policy))
      (time (reply x.surroundings .now).2) := by
    rw [← Session.now_eq_time hclock]
    exact h.keeps.lookup (hclock.le_reading x.surroundings) _ _
  -- nothing is stored in either case, so the table is the same as before
  cases hfound : (x.found reply c).1 with
  | some text =>
    rw [look_of_hit (h.enabled henabled) hfound]
    exact ⟨hpolicy, hkeeps, h.keyed,
      h.grounded.cons fun _ => h.exists_of_found hclock henabled hfound⟩
  | none =>
    rw [look_of_miss (h.enabled henabled) hfound]
    refine ⟨hpolicy, hkeeps, h.keyed.update (fun c' keys hnew => ?_) ticket, h.grounded⟩
    obtain ⟨rfl, rfl⟩ := Underway.mk.inj (Option.some.inj hnew)
    rw [h.policy_eq]

theorem finish (hclock : ForwardClock reply time) (henabled : policy.isEnabled = true)
    (h : x.Sound policy time) (ticket : Nat) (result : Except EvaluationError String) :
    (x.finish reply time ticket result).Sound policy time := by
  have hkeyed : Keyed policy (Function.update x.pending ticket none) :=
    h.keyed.update (fun _ _ hnew => absurd hnew.symm (Option.some_ne_none _)) ticket
  rcases hticket : x.pending ticket with _ | ⟨c, keys⟩
  · rwa [finish_of_none hticket]
  · obtain rfl := h.keyed ticket c keys hticket
    cases result with
    | error error =>
      rw [finish_of_error hticket]
      exact ⟨h.policy_eq, h.keeps, hkeyed, h.grounded.cons fun hexecuted => nomatch hexecuted⟩
    | ok text =>
      have hstored : (x.definition.cache.store (c.requester policy) c.key text (x.now reply)).Keeps
          (⟨c.requester policy, c.key, text, x.now reply⟩ ::
            x.past.filterMap (CallRecord.deposit? policy)) (x.now reply) :=
        h.keeps.store (h.enabled henabled) (hclock.le_reading x.surroundings) _ _ _
      rw [finish_of_ok hticket]
      refine ⟨h.policy_eq, ?_, hkeyed, h.grounded.cons fun hexecuted => nomatch hexecuted⟩
      rw [Session.now_eq_time hclock] at hstored ⊢
      exact hstored

theorem step (hclock : ForwardClock reply time) (henabled : policy.isEnabled = true)
    (h : x.Sound policy time) {s : OverlapStep σ} (htime : x.InTime time s) :
    (x.step reply time s).Sound policy time := by
  cases s with
  | look ticket c => exact h.look hclock henabled ticket c
  | elapse evaluator data change => exact ⟨h.policy_eq, h.keeps.mono htime, h.keyed, h.grounded⟩
  | finish ticket result => exact h.finish hclock henabled ticket result
  | purge now => exact ⟨h.policy_eq, h.keeps.purgeExpired htime, h.keyed, h.grounded⟩

theorem run (hclock : ForwardClock reply time) (henabled : policy.isEnabled = true)
    (h : x.Sound policy time) {steps : List (OverlapStep σ)}
    (horder : x.InClockOrder reply time steps) : (x.run reply time steps).Sound policy time := by
  induction steps generalizing x with
  | nil => exact h
  | cons s rest ih => exact ih (h.step hclock henabled horder.1) horder.2

end Sound

theorem toSession_look (h : x.executes reply c = false) (ticket : Nat) :
    (x.look reply time ticket c).toSession = x.toSession.call reply time c := by
  obtain ⟨text, htext⟩ := Option.ne_none_iff_exists'.mp
    (fun hnone => Bool.false_ne_true (h.symm.trans (Option.isNone_iff_eq_none.mpr hnone)))
  have houtcome := Session.outcome_of_recalled htext
  rw [look, Session.call, Session.record, houtcome, h]
  rcases hrecalled : x.recalled reply c with ⟨⟨hit, d⟩, s⟩
  rw [hrecalled] at htext
  obtain rfl := htext
  rfl

/-- The parts of an evaluation that finds no answer are, in a row, the whole evaluation. -/
theorem toSession_run_parts (h : x.executes reply c = true) (ticket : Nat) :
    let looked := x.recalled reply c
    let computed := Dialogue.run reply
      (x.evaluator.compute c.worker looked.1.2 c.identity c.args) looked.2
    (x.run reply time [.look ticket c, .elapse computed.1.2.2 computed.1.2.1.data fun _ => computed.2,
      .finish ticket computed.1.1]).toSession = x.toSession.call reply time c := by
  have houtcome := Session.outcome_of_executes h
  have hmiss : (x.recalled reply c).1.1 = none := Option.isNone_iff_eq_none.mp h
  rcases hlooked : x.recalled reply c with ⟨⟨hit, d⟩, s⟩
  rw [hlooked] at houtcome hmiss
  obtain rfl : hit = none := hmiss
  have hdata := (Evaluator.compute_ensures x.evaluator c.worker d c.identity c.args).run reply s
  rw [Evaluator.perform, Dialogue.bind_eq, Dialogue.run_bind] at houtcome
  rcases hcomputed : Dialogue.run reply (x.evaluator.compute c.worker d c.identity c.args) s
    with ⟨⟨result, d', evaluator⟩, s'⟩
  rw [hcomputed] at houtcome hdata
  obtain ⟨data, rfl⟩ : ∃ data, d' = { d with data } := hdata
  intro looked computed
  have hcomputed' : computed = ((result, { d with data }, evaluator), s') := hcomputed
  rw [Session.call, Session.record, h, houtcome, hcomputed']
  cases result with
  | error e => simp [run, step, look, finish, hlooked]
  | ok text => simp [run, step, look, finish, hlooked, Dialogue.run_bind]

/-- A step records one call at most, and one that executed the script only at the end of its evaluation. -/
theorem past_step (x : Overlap σ) (s : OverlapStep σ) :
    (x.step reply time s).past = x.past ∨
      ∃ r, (x.step reply time s).past = r :: x.past ∧
        (r.executed = true → ∃ ticket keys,
          s = .finish ticket r.result ∧ x.pending ticket = some ⟨r.call, keys⟩) := by
  cases s with
  | look ticket c =>
    rw [step, look]
    split
    · exact .inr ⟨_, rfl, fun hexecuted => nomatch hexecuted⟩
    · exact .inl rfl
  | elapse evaluator data change => exact .inl rfl
  | finish ticket result =>
    rw [step, finish]
    rcases hticket : x.pending ticket with _ | ⟨c, keys⟩
    · exact .inl rfl
    · cases result with
      | error error => exact .inr ⟨_, rfl, fun _ => ⟨ticket, keys, rfl, hticket⟩⟩
      | ok text => exact .inr ⟨_, rfl, fun _ => ⟨ticket, keys, rfl, hticket⟩⟩
  | purge now => exact .inl rfl

theorem past_run (x : Overlap σ) (steps : List (OverlapStep σ)) :
    ∃ later, (x.run reply time steps).past = later ++ x.past := by
  induction steps generalizing x with
  | nil => exact ⟨[], rfl⟩
  | cons s rest ih =>
    obtain ⟨later, hlater⟩ : ∃ later, ((x.step reply time s).run reply time rest).past =
        later ++ (x.step reply time s).past := ih _
    rcases past_step x s with hsame | ⟨r, hnew, -⟩
    · exact ⟨later, hlater.trans (by rw [hsame])⟩
    · exact ⟨later ++ [r], hlater.trans (by rw [hnew, List.append_assoc, List.singleton_append])⟩

/-- The result of a call that executed the script is the one with which its script ended. -/
theorem finished_of_executed (x : Overlap σ) (steps : List (OverlapStep σ)) {r : CallRecord}
    (hr : r ∈ (x.run reply time steps).past) (hexecuted : r.executed = true) :
    r ∈ x.past ∨ ∃ before ticket after keys, steps = before ++ .finish ticket r.result :: after ∧
      (x.run reply time before).pending ticket = some ⟨r.call, keys⟩ := by
  induction steps generalizing x with
  | nil => exact .inl hr
  | cons s rest ih =>
    rcases ih (x.step reply time s) hr with hold | ⟨before, ticket, after, keys, rfl, hticket⟩
    · rcases past_step x s with hsame | ⟨new, hnew, hfinish⟩
      · exact .inl (hsame ▸ hold)
      · rw [hnew] at hold
        rcases List.mem_cons.mp hold with rfl | hold
        · obtain ⟨ticket, keys, rfl, hticket⟩ := hfinish hexecuted
          exact .inr ⟨[], ticket, rest, keys, rfl, hticket⟩
        · exact .inl hold
    · exact .inr ⟨s :: before, ticket, after, keys, rfl, hticket⟩

theorem inClockOrder_append {before after : List (OverlapStep σ)} :
    x.InClockOrder reply time (before ++ after) ↔
      x.InClockOrder reply time before ∧ (x.run reply time before).InClockOrder reply time after := by
  induction before generalizing x with
  | nil => exact (and_iff_right trivial).symm
  | cons s rest ih => exact (and_congr_right fun _ => ih).trans and_assoc.symm

namespace Sound

variable {policy : CachePolicy}

theorem kept_eq (h : x.Sound policy time) : x.kept = x.past.filterMap (CallRecord.deposit? policy) := by
  rw [Session.kept, h.policy_eq]

theorem recalled_fst (hclock : ForwardClock reply time) (henabled : policy.isEnabled = true)
    (h : x.Sound policy time) (c : Call) :
    (x.recalled reply c).1.1 =
      (x.kept.find? (c.isAnsweredBy policy (x.now reply))).map Deposit.value := by
  rw [Session.recalled_of_enabled (h.enabled henabled), h.found_fst hclock henabled, h.kept_eq]

/-- A live result is found under its keys, if none that was stored later is. -/
theorem recalled_of_live (hclock : ForwardClock reply time) (henabled : policy.isEnabled = true)
    (h : x.Sound policy time) {later earlier : Memo} {dep : Deposit}
    (hkept : x.kept = later ++ dep :: earlier) {c : Call}
    (hlive : c.isAnsweredBy policy (x.now reply) dep = true) :
    ∃ found ∈ later ++ [dep], c.isAnsweredBy policy (x.now reply) found = true ∧
      (x.recalled reply c).1.1 = some found.value := by
  rw [h.recalled_fst hclock henabled, hkept, List.find?_append]
  cases hfind : later.find? (c.isAnsweredBy policy (x.now reply)) with
  | some found =>
    have hmem : found ∈ later := List.mem_of_find?_eq_some hfind
    exact ⟨found, List.mem_append_left _ hmem, List.find?_some hfind, rfl⟩
  | none =>
    rw [List.find?_cons_of_pos hlive]
    exact ⟨dep, by simp, hlive, rfl⟩

theorem kept_run_finish (hclock : ForwardClock reply time) (henabled : policy.isEnabled = true)
    (h : x.Sound policy time) {e : Underway} (hticket : x.pending ticket = some e) {text : String}
    {after : List (OverlapStep σ)}
    (horder : x.InClockOrder reply time (.finish ticket (.ok text) :: after)) :
    ∃ later, (x.run reply time (.finish ticket (.ok text) :: after)).kept =
      later ++ ⟨e.call.requester policy, e.call.key, text, x.now reply⟩ :: x.kept := by
  obtain ⟨c, keys⟩ := e
  obtain rfl := h.keyed ticket c keys hticket
  obtain ⟨later, hlater⟩ :
      ∃ later, ((x.finish reply time ticket (.ok text)).run reply time after).past =
        later ++ (x.finish reply time ticket (.ok text)).past := past_run _ after
  refine ⟨later.filterMap (CallRecord.deposit? policy), ?_⟩
  rw [(h.run hclock henabled horder).kept_eq, h.kept_eq]
  change ((x.finish reply time ticket (.ok text)).run reply time after).past.filterMap _ = _
  rw [hlater, List.filterMap_append, finish_of_ok hticket, Session.now_eq_time hclock]
  rfl

end Sound

/-- Evaluations of a definition may overlap in any way. One that executed the script gives what its own
script ended with. An answer from the cache was stored by an earlier evaluation under the same keys; with
a time-boxed policy, by one for the same requester. It is the latest live result under its keys. And
what an evaluation stores answers every later look under its keys until it expires, but for results
that are stored later still under these keys. -/
theorem overlapping_calls_keep_results (hclock : ForwardClock reply time) (evaluator : Evaluator)
    (d : Definition) (s : σ) (hempty : d.cache.size = 0) (henabled : d.policy.isEnabled = true)
    (steps : List (OverlapStep σ)) (horder : (start evaluator d s).InClockOrder reply time steps) :
    let x := (start evaluator d s).run reply time steps
    let answers (c : Call) := c.isAnsweredBy d.policy (x.now reply)
    (∀ r ∈ x.past, r.executed = true → ∃ before ticket after keys,
      steps = before ++ .finish ticket r.result :: after ∧
        ((start evaluator d s).run reply time before).pending ticket = some ⟨r.call, keys⟩) ∧
    (∀ later r earlier, x.past = later ++ r :: earlier → r.executed = false →
      ∃ b ∈ earlier, b.Succeeded ∧ b.result = r.result ∧
        b.call.requester d.policy = r.call.requester d.policy ∧ b.call.key = r.call.key ∧
        ∀ amount unit ttl, d.policy = .timeBoxed amount unit ttl →
          b.call.identity.uniqueId? = r.call.identity.uniqueId?) ∧
    (∀ c, (x.recalled reply c).1.1 = (x.kept.find? (answers c)).map Deposit.value) ∧
    ∀ before ticket text after, steps = before ++ .finish ticket (.ok text) :: after →
      let y := (start evaluator d s).run reply time before
      ∀ e, y.pending ticket = some e →
        let dep : Deposit := ⟨e.call.requester d.policy, e.call.key, text, y.now reply⟩
        ∃ later, x.kept = later ++ dep :: y.kept ∧
          ∀ c, answers c dep = true →
            ∃ found ∈ later ++ [dep], answers c found = true ∧
              (x.recalled reply c).1.1 = some found.value := by
  intro x answers
  have hsound : x.Sound d.policy time := (Sound.start evaluator hempty s).run hclock henabled horder
  refine ⟨?own, ?provenance, hsound.recalled_fst hclock henabled, ?kept⟩
  case own =>
    intro r hr hexecuted
    exact (finished_of_executed _ steps hr hexecuted).resolve_left List.not_mem_nil
  case provenance =>
    intro later r earlier hpast hrecalled
    obtain ⟨b, hb, hsucceeded, hresult, hrequester, hkey⟩ :=
      hsound.grounded later r earlier hpast hrecalled
    refine ⟨b, hb, hsucceeded, hresult, hrequester, hkey, fun amount unit ttl hpolicy => ?_⟩
    rw [hpolicy] at hrequester
    exact RequesterKey.resolve_timeBoxed_inj hrequester
  case kept =>
    rintro before ticket text after rfl y e hticket dep
    obtain ⟨hbefore, hafter⟩ := inClockOrder_append.mp horder
    have hy : y.Sound d.policy time := (Sound.start evaluator hempty s).run hclock henabled hbefore
    obtain ⟨later, hlater⟩ := hy.kept_run_finish hclock henabled hticket hafter
    have hx : x = y.run reply time (.finish ticket (.ok text) :: after) := List.foldl_append
    have hkept : x.kept = later ++ dep :: y.kept := by rw [hx, hlater]
    exact ⟨later, hkept, fun c hlive => hsound.recalled_of_live hclock henabled hkept hlive⟩

/-- Two calls of one player look before either of them stores anything, and the second one to end is
answered from then on. Another player has a result apart. -/
theorem overlapping_calls_keep_results_racing :
    let evaluator : Evaluator := .new { library := ⟨[]⟩, rounds := 10 } {}
    let d : Definition :=
      { Definition.ephemeral "first" "args[0]" with
        cache := .new (.timeBoxed 5 .nanoseconds ⟨5, by decide⟩) }
    let world : World := ⟨⟨[], []⟩, .zero, fun _ _ text => .ok text⟩
    let player (id : PlayerId) : Call := ⟨0, .offline ⟨id, none, false⟩, ["a"]⟩
    let steps : List (OverlapStep World) :=
      [.look 0 (player ⟨7⟩), .look 1 (player ⟨7⟩), .look 2 (player ⟨8⟩), .finish 0 (.ok "x"),
        .look 3 (player ⟨7⟩), .finish 2 (.ok "y"), .finish 1 (.ok "z"), .purge .zero]
    let x := (start evaluator d world).run World.tickingReply World.clock steps
    ForwardClock World.tickingReply World.clock ∧ d.cache.size = 0 ∧ d.policy.isEnabled = true ∧
      (start evaluator d world).InClockOrder World.tickingReply World.clock steps ∧
      (x.past.map fun r => r.executed) = [true, true, false, true] ∧
      (x.recalled World.tickingReply (player ⟨7⟩)).1.1 = some "z" ∧
      (x.recalled World.tickingReply (player ⟨8⟩)).1.1 = some "y" := by
  intro evaluator d world player steps x
  have hempty : d.cache.size = 0 := rfl
  have henabled : d.policy.isEnabled = true := rfl
  have horder : (start evaluator d world).InClockOrder World.tickingReply World.clock steps :=
    ⟨trivial, trivial, trivial, trivial, trivial, trivial, trivial, Nat.zero_le _, trivial⟩
  have hlaw := overlapping_calls_keep_results World.forwardClock_ticking evaluator d world hempty
    henabled steps horder
  refine ⟨World.forwardClock_ticking, hempty, henabled, horder, ?_, ?_, ?_⟩
  · decide +kernel
  · rw [hlaw.2.2.1]
    decide +kernel
  · rw [hlaw.2.2.1]
    decide +kernel

end Overlap

end PlaceholderScripts
