import PlaceholderScripts.Proofs.Evaluation.Session
import PlaceholderScripts.Proofs.Outcomes

/-!
# Failed evaluations

An evaluation can fail in its template, in its arguments, in the making of its interpreter, in its script and
in its result. All of this comes after the look into the cache and before the store, so a failure leaves of
the cache what the look left: an expired result under the call's own keys is gone, and every other entry
is as it was. Under these keys nothing answers any more until a call with the same keys succeeds.
-/

namespace PlaceholderScripts

def Call.HasKeys (policy : CachePolicy) (requester : RequesterKey) (key : String) (c : Call) : Prop :=
  c.requester policy = requester ∧ c.key = key

theorem ResultCache.entryAt?_store_of_ne {cache : ResultCache} {requester requester' : RequesterKey}
    {key key' : String} (h : ¬ (requester' = requester ∧ key' = key)) (value : String) (now : Instant) :
    (cache.store requester key value now).entryAt? requester' key' =
      cache.entryAt? requester' key' := by
  cases henabled : cache.policy.isEnabled with
  | true => rw [entryAt?_store _ _ _ _ _ _ _ henabled, if_neg h]
  | false =>
    have hstored : (cache.store requester key value now).policy.isEnabled = false := by
      rwa [policy_store]
    rw [entryAt?_of_disabled henabled, entryAt?_of_disabled hstored]

namespace Evaluator

variable (evaluator : Evaluator) (worker : Worker) (d : Definition) (identity : Identity)
  (args : List String)

/-- An execution that fails changes nothing of the definition but the data. -/
theorem perform_ensures_of_error (keys : Option (RequesterKey × String)) :
    (evaluator.perform worker d identity args keys).Ensures fun r =>
      ∀ e, r.1 = .error e → ∃ data, r.2.1 = { d with data } := by
  refine (compute_ensures evaluator worker d identity args).bind ?_
  rintro ⟨result, _, evaluator'⟩ ⟨data, rfl⟩
  cases result with
  | error e => exact fun _ _ => ⟨data, rfl⟩
  | ok text =>
    refine Dialogue.ensures_bind _ fun kept => ?_
    intro e he
    exact nomatch he

theorem perform_ensures_entryAt? {keys : Option (RequesterKey × String)} {requester : RequesterKey}
    {key : String} (hkeys : keys ≠ some (requester, key)) :
    (evaluator.perform worker d identity args keys).Ensures fun r =>
      r.2.1.cache.entryAt? requester key = d.cache.entryAt? requester key := by
  refine (compute_ensures evaluator worker d identity args).bind ?_
  rintro ⟨result, _, evaluator'⟩ ⟨data, rfl⟩
  cases result with
  | error e => exact rfl
  | ok text =>
    cases keys with
    | none => exact rfl
    | some own =>
      intro now
      refine ResultCache.entryAt?_store_of_ne ?_ text now
      rintro ⟨rfl, rfl⟩
      exact hkeys rfl

end Evaluator

namespace Session

variable {σ : Type} {reply : σ → (q : Request) → q.Reply × σ} {time : σ → Instant} {x : Session σ}
  {c : Call} {requester : RequesterKey} {key : String}

theorem cacheKeys?_ne (h : ¬ c.HasKeys x.definition.policy requester key) :
    Evaluator.cacheKeys? x.definition c.identity c.args ≠ some (requester, key) := by
  intro hkeys
  rw [Evaluator.cacheKeys?] at hkeys
  split at hkeys
  · obtain ⟨hrequester, hkey⟩ := Prod.mk.inj (Option.some.inj hkeys)
    exact h ⟨hrequester, hkey⟩
  · cases hkeys

variable (reply) in
/-- A look into the cache drops at most an expired entry under the call's own keys. -/
theorem entryAt?_recalled (x : Session σ) (c : Call) (requester : RequesterKey) (key : String) :
    (x.recalled reply c).1.2.cache.entryAt? requester key =
        x.definition.cache.entryAt? requester key ∨
      (c.HasKeys x.definition.policy requester key ∧
        (x.recalled reply c).1.2.cache.entryAt? requester key =
          (x.definition.cache.entryAt? requester key).filter
            fun entry => !entry.isExpired (x.now reply)) := by
  cases henabled : x.definition.policy.isEnabled with
  | false =>
    rw [recalled_of_disabled henabled]
    exact .inl rfl
  | true =>
    rw [recalled_of_enabled henabled, found, ResultCache.entryAt?_lookup]
    by_cases hown : requester = c.requester x.definition.policy ∧ key = c.key
    · obtain ⟨rfl, rfl⟩ := hown
      rw [if_pos ⟨rfl, rfl⟩]
      exact .inr ⟨⟨rfl, rfl⟩, rfl⟩
    · rw [if_neg hown]
      exact .inl rfl

/-- A call that executes its script has found nothing under its keys, or has dropped it. -/
theorem entryAt?_recalled_of_executes (h : x.executes reply c = true)
    (hkeys : c.HasKeys x.definition.policy requester key) :
    (x.recalled reply c).1.2.cache.entryAt? requester key = none := by
  obtain ⟨rfl, rfl⟩ := hkeys
  cases henabled : x.definition.policy.isEnabled with
  | false =>
    rw [recalled_of_disabled henabled]
    exact ResultCache.entryAt?_of_disabled henabled _ _
  | true =>
    rw [executes, recalled_of_enabled henabled, Option.isNone_iff_eq_none, found,
      ResultCache.lookup_fst, Option.map_eq_none_iff] at h
    rw [recalled_of_enabled henabled, found, ResultCache.entryAt?_lookup, if_pos ⟨rfl, rfl⟩]
    exact h

/-- Where there is nothing under its keys, a call executes its script. -/
theorem executes_of_entryAt?_eq_none (hkeys : c.HasKeys x.definition.policy requester key)
    (h : x.definition.cache.entryAt? requester key = none) : x.executes reply c = true := by
  obtain ⟨rfl, rfl⟩ := hkeys
  cases henabled : x.definition.policy.isEnabled with
  | false =>
    rw [executes, recalled_of_disabled henabled]
    rfl
  | true =>
    rw [executes, recalled_of_enabled henabled, found, ResultCache.lookup_fst, h]
    rfl

theorem entryAt?_call_of_ne (h : ¬ c.HasKeys x.definition.policy requester key) :
    (x.call reply time c).definition.cache.entryAt? requester key =
      x.definition.cache.entryAt? requester key := by
  have hrecalled : (x.recalled reply c).1.2.cache.entryAt? requester key =
      x.definition.cache.entryAt? requester key :=
    (entryAt?_recalled reply x c requester key).resolve_right fun hown => h hown.1
  change (x.outcome reply c).1.2.1.cache.entryAt? requester key = _
  cases hfound : (x.recalled reply c).1.1 with
  | some text =>
    rw [outcome_of_recalled hfound]
    exact hrecalled
  | none =>
    have hexecutes : x.executes reply c = true := by rw [executes, hfound]; rfl
    rw [outcome_of_executes hexecutes, ← hrecalled]
    exact (Evaluator.perform_ensures_entryAt? _ _ _ _ _ (cacheKeys?_ne h)).run reply _

theorem entryAt?_calls_of_ne {cs : List Call}
    (h : ∀ b ∈ cs, ¬ b.HasKeys x.definition.policy requester key) :
    (x.calls reply time cs).definition.cache.entryAt? requester key =
      x.definition.cache.entryAt? requester key := by
  induction cs generalizing x with
  | nil => rfl
  | cons b rest ih =>
    obtain ⟨hfirst, hrest⟩ := List.forall_mem_cons.mp h
    have hlater : ((x.call reply time b).calls reply time rest).definition.cache.entryAt? requester key =
        (x.call reply time b).definition.cache.entryAt? requester key := by
      refine ih fun b' hb' => ?_
      rw [policy_call]
      exact hrest b' hb'
    exact hlater.trans (entryAt?_call_of_ne hfirst)

theorem executes_of_error {e : EvaluationError} (h : (x.outcome reply c).1.1 = .error e) :
    x.executes reply c = true := by
  cases hfound : (x.recalled reply c).1.1 with
  | none => rw [executes, hfound]; rfl
  | some text =>
    rw [outcome_of_recalled hfound] at h
    cases h

/-- A call that fails leaves the cache as its look into it has left it. -/
theorem cache_call_of_error {e : EvaluationError} (h : (x.outcome reply c).1.1 = .error e) :
    (x.call reply time c).definition.cache = (x.recalled reply c).1.2.cache := by
  have hperform := (Evaluator.perform_ensures_of_error x.evaluator c.worker (x.recalled reply c).1.2
    c.identity c.args (Evaluator.cacheKeys? x.definition c.identity c.args)).run reply
      (x.recalled reply c).2
  rw [← outcome_of_executes (executes_of_error h)] at hperform
  obtain ⟨data, hdata⟩ := hperform e h
  change (x.outcome reply c).1.2.1.cache = _
  rw [hdata]

theorem run_evaluate (x : Session σ) (c : Call) :
    Dialogue.run reply (x.evaluator.evaluate c.worker x.definition c.identity c.args) x.surroundings =
      ((Evaluator.answer (x.outcome reply c).1.1, (x.outcome reply c).1.2), (x.outcome reply c).2) := by
  rw [Evaluator.evaluate, Dialogue.bind_eq, Dialogue.run_bind]
  rfl

variable (reply) (time) in
/-- Failures are not kept. However a call fails, it answers with the fixed text for errors, adds no entry to
the cache and drops none but an expired one under its own keys, so that all live entries are as they
were. The next call under the same keys executes the script again, whatever calls under other keys
come before it. -/
theorem failures_are_not_kept (x : Session σ) (c : Call) {e : EvaluationError}
    (h : (x.outcome reply c).1.1 = .error e) :
    let failed := x.call reply time c
    let policy := x.definition.policy
    Dialogue.run reply (x.evaluator.evaluate c.worker x.definition c.identity c.args) x.surroundings =
        ((scriptErrorText, failed.definition, failed.evaluator), failed.surroundings) ∧
      failed.definition.policy = policy ∧
      (∀ requester key entry, failed.definition.cache.entryAt? requester key = some entry →
        x.definition.cache.entryAt? requester key = some entry) ∧
      (∀ requester key entry, x.definition.cache.entryAt? requester key = some entry →
        failed.definition.cache.entryAt? requester key = some entry ∨
          (c.HasKeys policy requester key ∧ entry.isExpired (x.now reply) = true)) ∧
      ∀ cs next, (∀ b ∈ cs, ¬ b.HasKeys policy (c.requester policy) c.key) →
        next.HasKeys policy (c.requester policy) c.key →
        let y := failed.calls reply time cs
        y.executes reply next = true ∧
          y.outcome reply next =
            Dialogue.run reply
              (y.evaluator.perform next.worker (y.recalled reply next).1.2 next.identity next.args
                (Evaluator.cacheKeys? y.definition next.identity next.args))
              (y.recalled reply next).2 := by
  intro failed policy
  have hcache : failed.definition.cache = (x.recalled reply c).1.2.cache := cache_call_of_error h
  have hpolicy : failed.definition.policy = policy := policy_call x c
  refine ⟨?answer, hpolicy, ?added, ?dropped, ?next⟩
  case answer =>
    rw [run_evaluate, h]
    rfl
  case added =>
    intro requester key entry hentry
    rw [hcache] at hentry
    rcases entryAt?_recalled reply x c requester key with hsame | ⟨_, hfiltered⟩
    · rwa [hsame] at hentry
    · rw [hfiltered, Option.filter_eq_some_iff] at hentry
      exact hentry.1
  case dropped =>
    intro requester key entry hentry
    rw [hcache]
    rcases entryAt?_recalled reply x c requester key with hsame | ⟨hown, hfiltered⟩
    · exact .inl (hsame.trans hentry)
    · cases hexpired : entry.isExpired (x.now reply) with
      | true => exact .inr ⟨hown, rfl⟩
      | false =>
        refine .inl ?_
        rw [hfiltered, hentry, Option.filter_some, hexpired]
        rfl
  case next =>
    intro cs next hothers hnext y
    -- the failure leaves nothing under its keys, and calls with other keys put nothing there
    have hempty : failed.definition.cache.entryAt? (c.requester policy) c.key = none := by
      rw [hcache]
      exact entryAt?_recalled_of_executes (executes_of_error h) ⟨rfl, rfl⟩
    have hstill : y.definition.cache.entryAt? (c.requester policy) c.key = none := by
      refine (entryAt?_calls_of_ne fun b hb => ?_).trans hempty
      rw [hpolicy]
      exact hothers b hb
    have hexecutes : y.executes reply next = true := by
      refine executes_of_entryAt?_eq_none ?_ hstill
      rw [policy_calls, hpolicy]
      exact hnext
    exact ⟨hexecutes, outcome_of_executes hexecutes⟩

/-- A script that reads its second argument, with an expired result of one player and a live one of another,
at the sixth nanosecond. -/
def secondArgument : Session World :=
  let policy := (CachePolicy.timeBoxed? .zero 5 .nanoseconds).toOption.getD .disabled
  let reading (n : Nat) : Instant := (Instant.ofNanos? n).getD .zero
  let cache := ((ResultCache.new policy).store (.requester ⟨7⟩) "a" "old" .zero).store
    (.requester ⟨8⟩) "a" "theirs" (reading 4)
  start (.new { library := ⟨[]⟩, rounds := 10 } {})
    { Definition.ephemeral "second" "args[1]" with cache }
    ⟨⟨[], []⟩, reading 5, fun _ _ text => .ok text⟩

/-- The script fails for want of a second argument. The result of the other player is still there, and the
next call of the player who failed executes the script again. -/
theorem failures_are_not_kept_expired :
    let call (id : PlayerId) : Call := ⟨0, .offline ⟨id, none, false⟩, ["a"]⟩
    let failed := secondArgument.call World.tickingReply World.clock (call ⟨7⟩)
    (∃ e, (secondArgument.outcome World.tickingReply (call ⟨7⟩)).1.1 = .error e) ∧
      (Dialogue.run World.tickingReply (secondArgument.evaluator.evaluate 0 secondArgument.definition
        (call ⟨7⟩).identity ["a"]) secondArgument.surroundings).1.1 = scriptErrorText ∧
      (failed.definition.cache.entryAt? (.requester ⟨8⟩) "a").map CacheEntry.value = some "theirs" ∧
      (failed.calls World.tickingReply World.clock [call ⟨8⟩]).executes World.tickingReply
        (call ⟨7⟩) = true := by
  intro call failed
  obtain ⟨e, he⟩ : ∃ e, (secondArgument.outcome World.tickingReply (call ⟨7⟩)).1.1 = .error e :=
    exists_eq_error_of_isNone (by decide +kernel)
  obtain ⟨hanswer, -, -, hdropped, hnext⟩ :=
    failures_are_not_kept World.tickingReply World.clock secondArgument (call ⟨7⟩) he
  refine ⟨⟨e, he⟩, congrArg (·.1.1) hanswer, ?_, (hnext [call ⟨8⟩] (call ⟨7⟩) ?_ ⟨rfl, rfl⟩).1⟩
  · have hbefore : secondArgument.definition.cache.entryAt? (.requester ⟨8⟩) "a" =
        some ⟨"theirs", some ⟨9, by decide⟩⟩ := by
      decide +kernel
    rcases hdropped _ _ _ hbefore with hkept | ⟨⟨hrequester, _⟩, _⟩
    · exact congrArg (Option.map CacheEntry.value) hkept
    · exact absurd hrequester (by decide +kernel)
  · intro b hb
    obtain rfl := List.mem_singleton.mp hb
    rintro ⟨hrequester, _⟩
    exact absurd hrequester (by decide +kernel)

end Session

end PlaceholderScripts
