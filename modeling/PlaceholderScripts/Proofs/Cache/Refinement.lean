import PlaceholderScripts.Proofs.Cache.Memo

/-!
# Whole runs of a cache

Every run of stores, lookups, purges and clearings, under a clock that does not go back, answers its
lookups as the flat table of the stores does. The table is only changed by stores and clearings, so
lookups and purges in between, and whatever happens under other keys, cannot be told from the answers.
-/

namespace PlaceholderScripts

inductive CacheStep where
  | store (requester : RequesterKey) (key value : String)
  | lookup (requester : RequesterKey) (key : String)
  | purge
  | clear
  deriving DecidableEq, Repr

abbrev TimedStep := Instant × CacheStep

def InClockOrder (steps : List TimedStep) : Prop :=
  steps.Pairwise fun a b => a.1.nanos ≤ b.1.nanos

namespace ResultCache

def step (cache : ResultCache) (now : Instant) : CacheStep → ResultCache
  | .store requester key value => cache.store requester key value now
  | .lookup requester key => (cache.lookup requester key now).2
  | .purge => (cache.purgeExpired now).2
  | .clear => cache.clear

def after (cache : ResultCache) (steps : List TimedStep) : ResultCache :=
  steps.foldl (fun cache s => cache.step s.1 s.2) cache

/-- The answers to the lookups among steps. -/
def answers (cache : ResultCache) : List TimedStep → List (Option String)
  | [] => []
  | (now, .lookup requester key) :: rest =>
    (cache.lookup requester key now).1 :: answers (cache.step now (.lookup requester key)) rest
  | (now, s) :: rest => answers (cache.step now s) rest

end ResultCache

namespace Memo

/-- Only stores and clearings change the table. -/
def step (memo : Memo) (now : Instant) : CacheStep → Memo
  | .store requester key value => ⟨requester, key, value, now⟩ :: memo
  | .clear => []
  | .lookup _ _ | .purge => memo

def after (memo : Memo) (steps : List TimedStep) : Memo :=
  steps.foldl (fun memo s => memo.step s.1 s.2) memo

/-- What the table answers to the lookups among steps. -/
def answers (policy : CachePolicy) (memo : Memo) : List TimedStep → List (Option String)
  | [] => []
  | (now, .lookup requester key) :: rest =>
    memo.answer policy requester key now :: answers policy memo rest
  | (now, s) :: rest => answers policy (memo.step now s) rest

end Memo

/-- A step that decides what is read under two keys: a store under exactly these keys, or a clearing. -/
def CacheStep.concerns (requester : RequesterKey) (key : String) : CacheStep → Bool
  | .store r k _ => r = requester && k = key
  | .clear => true
  | .lookup _ _ | .purge => false

namespace ResultCache

@[simp] theorem policy_step (cache : ResultCache) (now : Instant) (s : CacheStep) :
    (cache.step now s).policy = cache.policy := by
  cases s <;> simp [step]

@[simp] theorem policy_after (cache : ResultCache) (steps : List TimedStep) :
    (cache.after steps).policy = cache.policy := by
  induction steps generalizing cache with
  | nil => rfl
  | cons s rest ih => exact (ih (cache.step s.1 s.2)).trans (policy_step cache s.1 s.2)

/-- A step on the cache is the step on the table that it represents. -/
theorem Represents.step {cache : ResultCache} {memo : Memo} {now later : Instant}
    (h : cache.Represents memo now) (henabled : cache.policy.isEnabled = true)
    (hle : now.nanos ≤ later.nanos) (s : CacheStep) :
    (cache.step later s).Represents (memo.step later s) later := by
  cases s with
  | store requester key value => exact h.store henabled requester key value later hle
  | lookup requester key => exact h.lookup hle requester key
  | purge => exact h.purgeExpired hle
  | clear => exact .clear cache later

theorem Represents.answers_eq {cache : ResultCache} {memo : Memo} {now : Instant}
    {steps : List TimedStep} (h : cache.Represents memo now)
    (henabled : cache.policy.isEnabled = true) (hpast : ∀ s ∈ steps, now.nanos ≤ s.1.nanos)
    (horder : InClockOrder steps) : cache.answers steps = memo.answers cache.policy steps := by
  induction steps generalizing cache memo now with
  | nil => rfl
  | cons s rest ih =>
    obtain ⟨later, s⟩ := s
    obtain ⟨hfuture, horder⟩ := List.pairwise_cons.mp horder
    have hle : now.nanos ≤ later.nanos := hpast _ List.mem_cons_self
    have hrest := ih (h.step henabled hle s) (by rwa [policy_step]) hfuture horder
    rw [policy_step] at hrest
    cases s with
    | lookup requester key =>
      rw [answers, Memo.answers, hrest, h.lookup_fst henabled hle]
      rfl
    | store requester key value => exact hrest
    | purge => exact hrest
    | clear => exact hrest

theorem Represents.after {cache : ResultCache} {memo : Memo} {now last : Instant}
    {steps : List TimedStep} (h : cache.Represents memo now)
    (henabled : cache.policy.isEnabled = true) (hle : now.nanos ≤ last.nanos)
    (hpast : ∀ s ∈ steps, now.nanos ≤ s.1.nanos) (horder : InClockOrder steps)
    (hlast : ∀ s ∈ steps, s.1.nanos ≤ last.nanos) :
    (cache.after steps).Represents (memo.after steps) last := by
  induction steps generalizing cache memo now with
  | nil => exact h.mono hle
  | cons s rest ih =>
    obtain ⟨hfuture, horder⟩ := List.pairwise_cons.mp horder
    have hstep := h.step henabled (hpast s List.mem_cons_self) s.2
    refine ih hstep (by rwa [policy_step]) (hlast s List.mem_cons_self) hfuture horder ?_
    exact fun t ht => hlast t (List.mem_cons_of_mem _ ht)

theorem answers_of_disabled {cache : ResultCache} (h : cache.policy.isEnabled = false) (memo : Memo)
    (steps : List TimedStep) : cache.answers steps = memo.answers cache.policy steps := by
  induction steps generalizing cache memo with
  | nil => rfl
  | cons s rest ih =>
    obtain ⟨now, s⟩ := s
    have hstep : (cache.step now s).policy.isEnabled = false := by
      rwa [policy_step]
    have hrest := ih hstep (memo.step now s)
    rw [policy_step] at hrest
    cases s with
    | lookup requester key =>
      have hlookup : (cache.lookup requester key now).1 = none := by
        rw [lookup_fst, entryAt?_of_disabled h]
        rfl
      have hanswer : memo.answer cache.policy requester key now = none := by
        rw [Memo.answer, h]
        rfl
      rw [answers, Memo.answers, hlookup, hanswer, hrest]
      rfl
    | store requester key value => exact hrest
    | purge => exact hrest
    | clear => exact hrest

end ResultCache

namespace Memo

/-- Two tables with the same latest store under two keys keep it in common when one of them takes only
the steps that concern these keys. -/
theorem latest?_after_filter {memo memo' : Memo} {requester : RequesterKey} {key : String}
    (h : memo.latest? requester key = memo'.latest? requester key) (steps : List TimedStep) :
    (memo.after (steps.filter fun s => s.2.concerns requester key)).latest? requester key =
      (memo'.after steps).latest? requester key := by
  -- the tables drift apart under other keys, so only what is read under these two is carried along
  induction steps generalizing memo memo' with
  | nil => exact h
  | cons s rest ih =>
    obtain ⟨now, s⟩ := s
    rw [List.filter_cons]
    cases s with
    | store r k value =>
      by_cases hkeys : r = requester ∧ k = key
      · have hconcerns : (CacheStep.store r k value).concerns requester key = true := by
          simp [CacheStep.concerns, hkeys]
        have hstored : (memo.step now (.store r k value)).latest? requester key =
            (memo'.step now (.store r k value)).latest? requester key := by
          rw [step, step, latest?_cons, latest?_cons, h]
        rw [if_pos hconcerns]
        exact ih hstored
      · have hother : ¬ (CacheStep.store r k value).concerns requester key = true := by
          simpa [CacheStep.concerns] using hkeys
        have hunseen : memo.latest? requester key =
            (memo'.step now (.store r k value)).latest? requester key := by
          rw [step, latest?_cons, if_neg fun hsame => hkeys ⟨hsame.1.symm, hsame.2.symm⟩, h]
        rw [if_neg hother]
        exact ih hunseen
    | clear =>
      have hempty : (memo.step now .clear).latest? requester key =
          (memo'.step now .clear).latest? requester key := rfl
      exact ih hempty
    | lookup r k => exact ih h
    | purge => exact ih h

end Memo

namespace ResultCache

theorem lookup_after_new {policy : CachePolicy} {steps : List TimedStep} {now : Instant}
    (horder : InClockOrder steps) (hlast : ∀ s ∈ steps, s.1.nanos ≤ now.nanos)
    (requester : RequesterKey) (key : String) :
    (((new policy).after steps).lookup requester key now).1 =
      (Memo.after [] steps).answer policy requester key now := by
  by_cases henabled : policy.isEnabled = true
  · have hnew : (new policy).Represents [] Instant.zero :=
      .of_entryAt?_eq_none (entryAt?_new policy) Instant.zero
    have hafter : ((new policy).after steps).Represents (Memo.after [] steps) now :=
      hnew.after henabled (Nat.zero_le _) (fun s _ => Nat.zero_le _) horder hlast
    have hlookup := hafter.lookup_fst (by rwa [policy_after]) (Nat.le_refl _) requester key
    rwa [policy_after] at hlookup
  · have hdisabled : ((new policy).after steps).policy.isEnabled = false := by
      rw [policy_after]
      exact Bool.eq_false_iff.mpr henabled
    rw [lookup_fst, entryAt?_of_disabled hdisabled, Memo.answer, if_neg henabled]
    rfl

/-- Every run of a new cache answers its lookups as the flat table of its stores does. A lookup behind
the run sees of it only the stores under its own keys and the clearings. A disabled cache stays without
buckets and entries. -/
theorem run_refines_memo (policy : CachePolicy) (steps : List TimedStep)
    (horder : InClockOrder steps) :
    (new policy).answers steps = Memo.answers policy [] steps ∧
      (∀ requester key now, (∀ s ∈ steps, s.1.nanos ≤ now.nanos) →
        (((new policy).after steps).lookup requester key now).1 =
          (((new policy).after (steps.filter fun s => s.2.concerns requester key)).lookup
            requester key now).1) ∧
      (policy.isEnabled = false →
        ((new policy).after steps).isAllocated = false ∧ ((new policy).after steps).size = 0) := by
  refine ⟨?_, fun requester key now hlast => ?_, fun hdisabled => ?_⟩
  · by_cases henabled : policy.isEnabled = true
    · have hnew : (new policy).Represents [] Instant.zero :=
        .of_entryAt?_eq_none (entryAt?_new policy) Instant.zero
      exact hnew.answers_eq henabled (fun s _ => Nat.zero_le _) horder
    · have hdisabled : (new policy).policy.isEnabled = false := Bool.eq_false_iff.mpr henabled
      exact answers_of_disabled hdisabled [] steps
  · have hfiltered : InClockOrder (steps.filter fun s => s.2.concerns requester key) :=
      horder.filter _
    rw [lookup_after_new horder hlast,
      lookup_after_new hfiltered fun s hs => hlast s (List.mem_filter.mp hs).1,
      Memo.answer, Memo.answer, Memo.latest?_after_filter rfl]
  · have hpolicy : ((new policy).after steps).policy.isEnabled = false := by
      rwa [policy_after]
    rw [isAllocated, size, buckets_of_disabled hpolicy]
    exact ⟨rfl, rfl⟩

/-- A first result is read until its lifetime of five nanoseconds is over, but no more at its end; a
shared one is still read by the latest readings of the clock. -/
theorem run_refines_memo_at_expiry :
    let id : RequesterKey := .requester ⟨7⟩
    let steps : List TimedStep := [
      (Instant.zero, .lookup id "k"), (Instant.zero, .store id "k" "v"), (⟨4, by decide⟩, .purge),
      (⟨4, by decide⟩, .lookup id "k"), (⟨5, by decide⟩, .lookup id "k"),
      (⟨5, by decide⟩, .store .shared "k" "w"),
      (⟨2 ^ 63 * nanosPerSecond - 1, by decide⟩, .lookup .shared "k")]
    InClockOrder steps ∧
      (new (.timeBoxed 5 .nanoseconds ⟨5, by decide⟩)).answers steps =
        [none, some "v", none, some "w"] := by
  intro id steps
  have horder : InClockOrder steps := by
    unfold InClockOrder
    decide
  refine ⟨horder, ?_⟩
  rw [(run_refines_memo _ steps horder).1]
  decide

end ResultCache

end PlaceholderScripts
