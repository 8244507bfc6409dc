import PlaceholderScripts.Evaluation
import PlaceholderScripts.Proofs.Cache.Memo
import PlaceholderScripts.Proofs.Surroundings.Clock

/-!
# Sessions of evaluations

One definition is asked for again and again, by anybody and with any arguments. A session records every
call, and the successful executions among the calls leave a table of results. The calls that find a live
result in this table are exactly those that do not execute the script, and they change nothing. The
surroundings may be anything whose clock does not go back, so whatever happens between two calls is part
of them.
-/

namespace PlaceholderScripts

structure Call where
  worker : Worker
  identity : Identity
  args : List String

namespace Call

def requester (policy : CachePolicy) (c : Call) : RequesterKey :=
  RequesterKey.resolve policy c.identity.uniqueId?

def key (c : Call) : String := argumentKey c.args

def isAnsweredBy (policy : CachePolicy) (now : Instant) (c : Call) (dep : Deposit) : Bool :=
  dep.isUnder (c.requester policy) c.key && dep.isLive policy now

@[simp] theorem requester_static (c : Call) : c.requester .static = .shared := rfl

/-- Under a static policy the results of all requesters answer, at any time. -/
theorem isAnsweredBy_static (now : Instant) (c : Call) (dep : Deposit) :
    c.isAnsweredBy .static now dep = decide (dep.requester = .shared ∧ dep.key = c.key) := by
  have hlive : dep.isLive .static now = true := by
    unfold Deposit.isLive
    cases dep.requester <;> rfl
  rw [isAnsweredBy, hlive, Bool.and_true, requester_static]
  rfl

end Call

structure CallRecord where
  call : Call
  executed : Bool
  result : Except EvaluationError String
  endedAt : Instant

namespace CallRecord

def Succeeded (r : CallRecord) : Prop := r.executed = true ∧ ∃ text, r.result = .ok text

/-- What a successful execution leaves. -/
def deposit? (policy : CachePolicy) (r : CallRecord) : Option Deposit :=
  match r.executed, r.result with
  | true, .ok text => some ⟨r.call.requester policy, r.call.key, text, r.endedAt⟩
  | _, _ => none

theorem deposit?_eq_some {policy : CachePolicy} {r : CallRecord} {dep : Deposit}
    (h : r.deposit? policy = some dep) :
    dep.requester = r.call.requester policy ∧ dep.key = r.call.key ∧ dep.storedAt = r.endedAt := by
  unfold deposit? at h
  split at h
  · obtain rfl := Option.some.inj h
    exact ⟨rfl, rfl, rfl⟩
  · exact nomatch h

theorem succeeded_of_deposit? {policy : CachePolicy} {r : CallRecord} {dep : Deposit}
    (h : r.deposit? policy = some dep) : r.Succeeded ∧ r.result = .ok dep.value := by
  unfold deposit? at h
  split at h
  · next text hexecuted hresult =>
    obtain rfl := Option.some.inj h
    exact ⟨⟨hexecuted, text, hresult⟩, hresult⟩
  · exact nomatch h

theorem Succeeded.deposit? {r : CallRecord} (h : r.Succeeded) (policy : CachePolicy) :
    ∃ dep, r.deposit? policy = some dep := by
  obtain ⟨hexecuted, text, hresult⟩ := h
  exact ⟨_, by rw [CallRecord.deposit?, hexecuted, hresult]⟩

end CallRecord

/-- A definition with its evaluator and surroundings, and the calls so far, the latest first. -/
structure Session (σ : Type) where
  evaluator : Evaluator
  definition : Definition
  surroundings : σ
  past : List CallRecord := []

namespace Session

variable {σ : Type} (reply : σ → (q : Request) → q.Reply × σ) (time : σ → Instant)

/-- The results of all successful executions, the latest first. -/
def kept (x : Session σ) : Memo := x.past.filterMap (CallRecord.deposit? x.definition.policy)

/-- What the cache answers to a call, with the definition and the surroundings after it was asked. -/
def recalled (x : Session σ) (c : Call) : (Option String × Definition) × σ :=
  Dialogue.run reply
    (Evaluator.consult x.definition (Evaluator.cacheKeys? x.definition c.identity c.args))
    x.surroundings

/-- What the clock reads where the next call asks for the time. -/
def now (x : Session σ) : Instant := (reply x.surroundings .now).1

def found (x : Session σ) (c : Call) : Option String × ResultCache :=
  x.definition.cache.lookup (c.requester x.definition.policy) c.key (x.now reply)

/-- A call substitutes and executes the script exactly if the cache has no answer. -/
def executes (x : Session σ) (c : Call) : Bool := (x.recalled reply c).1.1.isNone

def attempt (x : Session σ) (c : Call) :
    Program (Except EvaluationError String × Definition × Evaluator) :=
  x.evaluator.tryEvaluate c.worker x.definition c.identity c.args

def outcome (x : Session σ) (c : Call) :
    (Except EvaluationError String × Definition × Evaluator) × σ :=
  Dialogue.run reply (x.attempt c) x.surroundings

def record (x : Session σ) (c : Call) : CallRecord :=
  ⟨c, x.executes reply c, (x.outcome reply c).1.1, time (x.outcome reply c).2⟩

/-- The session after a call. -/
def call (x : Session σ) (c : Call) : Session σ where
  evaluator := (x.outcome reply c).1.2.2
  definition := (x.outcome reply c).1.2.1
  surroundings := (x.outcome reply c).2
  past := x.record reply time c :: x.past

def start (evaluator : Evaluator) (definition : Definition) (surroundings : σ) : Session σ :=
  { evaluator, definition, surroundings }

def calls (x : Session σ) (cs : List Call) : Session σ := cs.foldl (call reply time) x

variable {reply} {time} {x : Session σ} {c : Call}

theorem recalled_of_disabled (h : x.definition.policy.isEnabled = false) :
    x.recalled reply c = ((none, x.definition), x.surroundings) := by
  rw [recalled, Evaluator.cacheKeys?, h]
  rfl

theorem recalled_of_enabled (h : x.definition.policy.isEnabled = true) :
    x.recalled reply c =
      ((((x.found reply c).1), { x.definition with cache := (x.found reply c).2 }),
        (reply x.surroundings .now).2) := by
  rw [recalled, Evaluator.cacheKeys?, h]
  rfl

/-- What an attempt does once it knows what the cache answers. -/
def resumed (x : Session σ) (c : Call) (r : Option String × Definition) :
    Program (Except EvaluationError String × Definition × Evaluator) :=
  match r.1 with
  | some hit => .done (.ok hit, r.2, x.evaluator)
  | none =>
    x.evaluator.perform c.worker r.2 c.identity c.args
      (Evaluator.cacheKeys? x.definition c.identity c.args)

theorem attempt_eq (x : Session σ) (c : Call) :
    x.attempt c = (Evaluator.consult x.definition
      (Evaluator.cacheKeys? x.definition c.identity c.args)).bind (x.resumed c) := by
  rw [attempt, Evaluator.tryEvaluate, Dialogue.bind_eq]
  refine congrArg _ (funext fun ⟨hit, d⟩ => ?_)
  cases hit <;> rfl

theorem outcome_eq (x : Session σ) (c : Call) :
    x.outcome reply c =
      Dialogue.run reply (x.resumed c (x.recalled reply c).1) (x.recalled reply c).2 := by
  rw [outcome, attempt_eq, Dialogue.run_bind, recalled]

def looked (x : Session σ) : List Request := if x.definition.policy.isEnabled then [.now] else []

theorem asked_eq (x : Session σ) (c : Call) :
    (x.attempt c).asked reply x.surroundings =
      x.looked ++ (x.resumed c (x.recalled reply c).1).asked reply (x.recalled reply c).2 := by
  have hlooked : Dialogue.asked reply
      (Evaluator.consult x.definition (Evaluator.cacheKeys? x.definition c.identity c.args))
      x.surroundings = x.looked := by
    rw [Evaluator.cacheKeys?, looked]
    split <;> rfl
  rw [attempt_eq, Dialogue.asked_bind, hlooked, recalled]

theorem resumed_of_recalled {text : String} (h : (x.recalled reply c).1.1 = some text) :
    x.resumed c (x.recalled reply c).1 = .done (.ok text, (x.recalled reply c).1.2, x.evaluator) := by
  rw [resumed, h]

theorem resumed_of_executes (h : x.executes reply c = true) :
    x.resumed c (x.recalled reply c).1 =
      x.evaluator.perform c.worker (x.recalled reply c).1.2 c.identity c.args
        (Evaluator.cacheKeys? x.definition c.identity c.args) := by
  rw [executes, Option.isNone_iff_eq_none] at h
  rw [resumed, h]

theorem outcome_of_recalled {text : String} (h : (x.recalled reply c).1.1 = some text) :
    x.outcome reply c =
      ((.ok text, (x.recalled reply c).1.2, x.evaluator), (x.recalled reply c).2) := by
  rw [outcome_eq, resumed_of_recalled h, Dialogue.run_done]

/-- A call that finds an answer asks for the time and for nothing else. -/
theorem asked_of_recalled {text : String} (h : (x.recalled reply c).1.1 = some text) :
    (x.attempt c).asked reply x.surroundings = [.now] := by
  cases henabled : x.definition.policy.isEnabled with
  | false =>
    rw [recalled_of_disabled henabled] at h
    exact nomatch h
  | true =>
    rw [asked_eq, resumed_of_recalled h, looked, if_pos henabled]
    rfl

/-- A call that finds no answer goes on from where that was found out. -/
theorem outcome_of_executes (h : x.executes reply c = true) :
    x.outcome reply c =
      Dialogue.run reply
        (x.evaluator.perform c.worker (x.recalled reply c).1.2 c.identity c.args
          (Evaluator.cacheKeys? x.definition c.identity c.args))
        (x.recalled reply c).2 := by
  rw [outcome_eq, resumed_of_executes h]

@[simp] theorem policy_call (x : Session σ) (c : Call) :
    (x.call reply time c).definition.policy = x.definition.policy :=
  (Evaluator.tryEvaluate_ensures_policy x.evaluator c.worker x.definition c.identity c.args).run
    reply x.surroundings

@[simp] theorem policy_calls (x : Session σ) (cs : List Call) :
    (x.calls reply time cs).definition.policy = x.definition.policy := by
  induction cs generalizing x with
  | nil => rfl
  | cons c rest ih => exact (ih (x.call reply time c)).trans (policy_call x c)

theorem kept_call (x : Session σ) (c : Call) :
    (x.call reply time c).kept =
      ((x.record reply time c).deposit? x.definition.policy).toList ++ x.kept := by
  rw [kept, policy_call]
  change List.filterMap _ (x.record reply time c :: x.past) = _
  rw [List.filterMap_cons]
  cases (x.record reply time c).deposit? x.definition.policy <;> rfl

theorem now_eq_time (hclock : ForwardClock reply time) (x : Session σ) :
    x.now reply = time (reply x.surroundings .now).2 :=
  hclock.reading x.surroundings

theorem time_le_now (hclock : ForwardClock reply time) (x : Session σ) :
    (time x.surroundings).nanos ≤ (x.now reply).nanos := by
  rw [now_eq_time hclock]
  exact hclock.forward x.surroundings .now

/-- An execution keeps its result under the call's keys, if it has one, at the time at which it ends. -/
theorem represents_perform (hclock : ForwardClock reply time) {evaluator : Evaluator} {c : Call}
    {d : Definition} {s : σ} {memo : Memo} {policy : CachePolicy}
    (henabled : d.policy.isEnabled = true) (h : d.cache.Represents memo (time s))
    {ended : (Except EvaluationError String × Definition × Evaluator) × σ}
    (hended : ended = Dialogue.run reply
      (evaluator.perform c.worker d c.identity c.args (some (c.requester policy, c.key))) s) :
    ended.1.2.1.cache.Represents
      ((CallRecord.deposit? policy ⟨c, true, ended.1.1, time ended.2⟩).toList ++ memo)
      (time ended.2) := by
  -- the script may have changed the data, but the cache is still the one that was consulted
  obtain ⟨data, hdata⟩ :=
    (Evaluator.compute_ensures evaluator c.worker d c.identity c.args).run reply s
  have hforward := hclock.run (evaluator.compute c.worker d c.identity c.args) s
  rw [Evaluator.perform, Dialogue.bind_eq, Dialogue.run_bind] at hended
  generalize Dialogue.run reply (evaluator.compute c.worker d c.identity c.args) s = computed
    at hended hdata hforward
  obtain ⟨⟨result, d', evaluator'⟩, s'⟩ := computed
  obtain rfl : d' = { d with data } := hdata
  have hcomputed : d.cache.Represents memo (time s') := h.mono hforward
  cases result with
  | error e =>
    obtain rfl := hended
    exact hcomputed
  | ok text =>
    obtain rfl := hended
    change (d.cache.store (c.requester policy) c.key text (reply s' .now).1).Represents _ _
    rw [hclock.reading]
    exact hcomputed.store henabled (c.requester policy) c.key text _ (hclock.forward s' .now)

structure Sound (time : σ → Instant) (x : Session σ) : Prop where
  represents : x.definition.policy.isEnabled = true →
    x.definition.cache.Represents x.kept (time x.surroundings)
  ordered : x.kept.Ordered
  past : ∀ dep ∈ x.kept, dep.storedAt.nanos ≤ (time x.surroundings).nanos
  once : x.definition.policy = .static →
    x.past.Pairwise fun a b => a.Succeeded → b.Succeeded → a.call.key ≠ b.call.key

namespace Sound

theorem keeps (h : Sound time x) (henabled : x.definition.policy.isEnabled = true) :
    x.definition.cache.Keeps x.kept (time x.surroundings) :=
  ⟨h.represents henabled, h.ordered, h.past⟩

/-- The cache answers with the latest live result that the session has kept. -/
theorem found_fst (hclock : ForwardClock reply time) (h : Sound time x)
    (henabled : x.definition.policy.isEnabled = true) (c : Call) :
    (x.found reply c).1 =
      (x.kept.find? (c.isAnsweredBy x.definition.policy (x.now reply))).map
        Deposit.value :=
  (h.keeps henabled).lookup_fst henabled (time_le_now hclock x) _ _

theorem executes_iff (hclock : ForwardClock reply time) (h : Sound time x) (c : Call) :
    x.executes reply c = true ↔
      x.definition.policy = .disabled ∨
        ∀ dep ∈ x.kept,
          ¬ c.isAnsweredBy x.definition.policy (x.now reply) dep = true := by
  cases henabled : x.definition.policy.isEnabled with
  | false =>
    have hdisabled : x.definition.policy = .disabled := CachePolicy.isEnabled_eq_false.mp henabled
    rw [executes, recalled_of_disabled henabled]
    exact iff_of_true rfl (.inl hdisabled)
  | true =>
    have hother : x.definition.policy ≠ .disabled := by
      intro hdisabled
      rw [CachePolicy.isEnabled_eq_false.mpr hdisabled] at henabled
      exact Bool.noConfusion henabled
    rw [executes, recalled_of_enabled henabled, h.found_fst hclock henabled, or_iff_right hother,
      Option.isNone_iff_eq_none, Option.map_eq_none_iff, List.find?_eq_none]

/-- A call that does not execute the script is answered by the latest live result, and leaves everything
as it was but for the reading of the clock. -/
theorem recalled_of_not_executes (hclock : ForwardClock reply time) (h : Sound time x)
    (hfound : ¬ x.executes reply c = true) :
    ∃ dep, x.kept.find?
        (c.isAnsweredBy x.definition.policy (x.now reply)) = some dep ∧
      x.recalled reply c =
        ((some dep.value, x.definition), (reply x.surroundings .now).2) := by
  have henabled : x.definition.policy.isEnabled = true := by
    rw [h.executes_iff hclock, not_or] at hfound
    rw [← Bool.not_eq_false, CachePolicy.isEnabled_eq_false]
    exact hfound.1
  rw [executes, recalled_of_enabled henabled, Option.isNone_iff_eq_none, ← ne_eq,
    Option.ne_none_iff_exists'] at hfound
  obtain ⟨text, htext⟩ := hfound
  have hanswer := h.found_fst hclock henabled c
  rw [htext, eq_comm, Option.map_eq_some_iff] at hanswer
  obtain ⟨dep, hdep, rfl⟩ := hanswer
  refine ⟨dep, hdep, ?_⟩
  rw [recalled_of_enabled henabled, htext]
  rw [found] at htext ⊢
  rw [ResultCache.lookup_snd_of_hit htext]

theorem represents_call (hclock : ForwardClock reply time) (h : Sound time x) (c : Call)
    (henabled : x.definition.policy.isEnabled = true) :
    (x.call reply time c).definition.cache.Represents (x.call reply time c).kept
      (time (x.call reply time c).surroundings) := by
  rw [kept_call]
  cases hexecutes : x.executes reply c with
  | false =>
    obtain ⟨dep, _, hrecalled⟩ := h.recalled_of_not_executes hclock (Bool.eq_false_iff.mp hexecutes)
    have houtcome := outcome_of_recalled (congrArg (·.1.1) hrecalled)
    rw [hrecalled] at houtcome
    rw [record, hexecutes]
    change (x.outcome reply c).1.2.1.cache.Represents x.kept (time (x.outcome reply c).2)
    rw [houtcome]
    exact (h.represents henabled).mono (hclock.forward x.surroundings .now)
  | true =>
    have houtcome := outcome_of_executes hexecutes
    rw [recalled_of_enabled henabled, Evaluator.cacheKeys?, if_pos henabled] at houtcome
    rw [record, hexecutes]
    refine represents_perform hclock ?enabled ?looked houtcome
    case enabled =>
      change (x.found reply c).2.policy.isEnabled = true
      rwa [found, ResultCache.policy_lookup]
    case looked =>
      rw [← now_eq_time hclock]
      exact (h.represents henabled).lookup (time_le_now hclock x) _ _

theorem call (hclock : ForwardClock reply time) (h : Sound time x) (c : Call) :
    Sound time (x.call reply time c) := by
  -- whatever the call leaves is stored at the time at which it ends, behind all earlier stores
  have hforward : (time x.surroundings).nanos ≤ (time (x.outcome reply c).2).nanos :=
    hclock.run _ x.surroundings
  have hpast : ∀ dep ∈ x.kept, dep.storedAt.nanos ≤ (time (x.outcome reply c).2).nanos :=
    fun dep hdep => Nat.le_trans (h.past dep hdep) hforward
  refine ⟨?represents, ?ordered, ?past, ?once⟩
  case represents =>
    rw [policy_call]
    exact h.represents_call hclock c
  case ordered =>
    rw [kept_call]
    cases hdep : (x.record reply time c).deposit? x.definition.policy with
    | none => exact h.ordered
    | some dep =>
      have hstored := (CallRecord.deposit?_eq_some hdep).2.2
      refine List.pairwise_cons.mpr ⟨fun earlier hearlier => ?_, h.ordered⟩
      rw [hstored]
      exact hpast earlier hearlier
  case past =>
    rw [kept_call]
    intro dep hdep
    rcases List.mem_append.mp hdep with hnew | hold
    · rw [Option.mem_toList] at hnew
      rw [(CallRecord.deposit?_eq_some hnew).2.2]
      exact Nat.le_refl _
    · exact hpast dep hold
  case once =>
    rw [policy_call]
    intro hstatic
    refine List.pairwise_cons.mpr ⟨fun r hr hnew hold => ?_, h.once hstatic⟩
    -- an earlier success under the same key would still answer, so the call would not have executed
    obtain ⟨dep, hdep⟩ := hold.deposit? x.definition.policy
    have hkept : dep ∈ x.kept := List.mem_filterMap.mpr ⟨r, hr, hdep⟩
    have hunanswered : ¬ c.isAnsweredBy x.definition.policy (x.now reply) dep = true := by
      refine ((h.executes_iff hclock c).mp hnew.1).resolve_left ?_ dep hkept
      rw [hstatic]
      exact CachePolicy.noConfusion
    intro hkey
    refine hunanswered ?_
    rw [hstatic] at hdep ⊢
    obtain ⟨hrequester, hdepKey, _⟩ := CallRecord.deposit?_eq_some hdep
    rw [Call.isAnsweredBy_static, hrequester, hdepKey]
    exact decide_eq_true ⟨rfl, hkey.symm⟩

theorem calls (hclock : ForwardClock reply time) (h : Sound time x) (cs : List Call) :
    Sound time (x.calls reply time cs) := by
  induction cs generalizing x with
  | nil => exact h
  | cons c rest ih => exact ih (h.call hclock c)

theorem start {evaluator : Evaluator} {d : Definition} (hempty : d.cache.size = 0) (s : σ) :
    Sound time (start evaluator d s) where
  represents := fun _ =>
    .of_entryAt?_eq_none (ResultCache.entryAt?_of_size_eq_zero hempty) (time s)
  ordered := .nil
  past := fun _ hdep => nomatch hdep
  once := fun _ => .nil

end Sound

/-- The memo law of evaluations. After any calls, the next one executes the script exactly if the policy
is disabled or no live result is left under its keys by an earlier successful execution. An execution
starts from the definition without an expired result under these keys. A call that does not execute
the script is answered by the latest live result, changes neither the definition nor the evaluator, and
asks the surroundings for nothing but the time. Under a static policy no two successful executions have
the same argument key. -/
theorem calls_follow_memo (hclock : ForwardClock reply time) (evaluator : Evaluator)
    (d : Definition) (s : σ) (hempty : d.cache.size = 0) (cs : List Call) (c : Call) :
    let x := (start evaluator d s).calls reply time cs
    let answers := c.isAnsweredBy d.policy (x.now reply)
    (x.executes reply c = true ↔
      d.policy = .disabled ∨ ∀ dep ∈ x.kept, ¬ answers dep = true) ∧
    (x.executes reply c = true →
      x.outcome reply c =
        Dialogue.run reply
          (x.evaluator.perform c.worker (x.recalled reply c).1.2 c.identity c.args
            (Evaluator.cacheKeys? x.definition c.identity c.args))
          (x.recalled reply c).2) ∧
    (¬ x.executes reply c = true →
      ∃ dep, x.kept.find? answers = some dep ∧
        x.outcome reply c =
          ((.ok dep.value, x.definition, x.evaluator), (reply x.surroundings .now).2) ∧
        (x.attempt c).asked reply x.surroundings = [.now]) ∧
    (d.policy = .static →
      x.past.Pairwise fun a b => a.Succeeded → b.Succeeded → a.call.key ≠ b.call.key) := by
  intro x answers
  have hsound : Sound time x := (Sound.start hempty s).calls hclock cs
  have hpolicy : x.definition.policy = d.policy := policy_calls _ cs
  refine ⟨?_, outcome_of_executes, fun hanswered => ?_, fun hstatic => ?_⟩
  · have hexecutes := hsound.executes_iff hclock c
    rwa [hpolicy] at hexecutes
  · obtain ⟨dep, hdep, hrecalled⟩ := hsound.recalled_of_not_executes hclock hanswered
    have hhit : (x.recalled reply c).1.1 = some dep.value := by rw [hrecalled]
    have houtcome := outcome_of_recalled hhit
    rw [hrecalled] at houtcome
    rw [hpolicy] at hdep
    exact ⟨dep, hdep, houtcome, asked_of_recalled hhit⟩
  · exact hsound.once (hpolicy.trans hstatic)

/-- A result that lives for five nanoseconds answers the requester for whom it was stored, but no more
at its end; the one that was stored for nobody in particular answers everybody unknown still. -/
theorem calls_follow_memo_at_expiry :
    let evaluator : Evaluator := .new { library := ⟨[]⟩, rounds := 10 } {}
    let d : Definition :=
      { Definition.ephemeral "first" "args[0]" with
        cache := .new (.timeBoxed 5 .nanoseconds ⟨5, by decide⟩) }
    let world : World := ⟨⟨[], []⟩, .zero, fun _ _ text => .ok text⟩
    let player : Call := ⟨0, .offline ⟨⟨7⟩, none, false⟩, ["a"]⟩
    let nobody : Call := ⟨1, .anonymous, ["a"]⟩
    let after := (start evaluator d world).calls World.tickingReply World.clock
    ForwardClock World.tickingReply World.clock ∧ d.cache.size = 0 ∧
      ((after [player, nobody]).outcome World.tickingReply player).1.1 = .ok "a" ∧
      (after [player, nobody, player, nobody]).executes World.tickingReply player = true ∧
      (after [player, nobody, player, player]).executes World.tickingReply nobody = false := by
  intro evaluator d world player nobody after
  have hempty : d.cache.size = 0 := rfl
  have hlaw := calls_follow_memo World.forwardClock_ticking evaluator d world hempty
  refine ⟨World.forwardClock_ticking, hempty, ?_, ?_, ?_⟩
  · obtain ⟨dep, hdep, houtcome, _⟩ := (hlaw [player, nobody] player).2.2.1 (by decide +kernel)
    have hkept : ((after [player, nobody]).kept.find? (player.isAnsweredBy d.policy
        ((after [player, nobody]).now World.tickingReply))).map Deposit.value = some "a" := by
      decide +kernel
    rw [hdep] at hkept
    rw [houtcome]
    exact congrArg Except.ok (Option.some.inj hkept)
  · exact (hlaw [player, nobody, player, nobody] player).1.mpr (.inr (by decide +kernel))
  · exact Bool.eq_false_iff.mpr fun hexecutes =>
      absurd ((hlaw [player, nobody, player, player] nobody).1.mp hexecutes) (by decide +kernel)

end Session

end PlaceholderScripts
