import PlaceholderScripts.Evaluation
import PlaceholderScripts.Proofs.Cache.Agreement
import PlaceholderScripts.Proofs.Surroundings.Clock

/-!
# Evaluations of definitions that agree

Two definitions agree from a time on if they differ at most in their caches, and the caches agree. An
evaluation asks its cache only for a live result and only stores into it, so from two such definitions
it goes the same way: it asks the surroundings the same questions, has the same result, and leaves
definitions that agree. That holds of each part of an evaluation on its own.
-/

namespace PlaceholderScripts

structure Definition.AgreeFrom (now : Instant) (d d' : Definition) : Prop where
  same : d' = { d with cache := d'.cache }
  cache : d.cache.AgreeFrom now d'.cache

namespace Definition.AgreeFrom

variable {now later : Instant} {d d' : Definition}

theorem refl (now : Instant) (d : Definition) : AgreeFrom now d d := ⟨rfl, .refl now d.cache⟩

theorem mono (h : AgreeFrom now d d') (hle : now.nanos ≤ later.nanos) : AgreeFrom later d d' :=
  ⟨h.same, h.cache.mono hle⟩

theorem data_eq (h : AgreeFrom now d d') : d'.data = d.data := by
  rw [h.same]

theorem policy_eq (h : AgreeFrom now d d') : d'.policy = d.policy := h.cache.policy

theorem withData (h : AgreeFrom now d d') (data : Store) :
    AgreeFrom now { d with data } { d' with data } :=
  ⟨congrArg (fun e : Definition => { e with data }) h.same, h.cache⟩

theorem withCache (h : AgreeFrom now d d') {cache cache' : ResultCache}
    (hcache : cache.AgreeFrom later cache') :
    AgreeFrom later { d with cache } { d' with cache := cache' } :=
  ⟨congrArg (fun e : Definition => { e with cache := cache' }) h.same, hcache⟩

end Definition.AgreeFrom

/-- What is done with an evaluator and a definition, and what becomes of both. -/
abbrev Act (α : Type) := Evaluator → Definition → Program (α × Definition × Evaluator)

namespace Act

variable {σ α : Type}

/-- Two runs of an act on definitions that agree: they come to the same, and the definitions still agree
when they are over. -/
inductive Alike (time : σ → Instant) :
    (α × Definition × Evaluator) × σ → (α × Definition × Evaluator) × σ → Prop
  | intro {a : α} {e e' : Definition} {evaluator : Evaluator} {s : σ} :
      e.AgreeFrom (time s) e' → Alike time ((a, e, evaluator), s) ((a, e', evaluator), s)

/-- An act that cannot tell definitions apart that agree. -/
def Blind (reply : σ → (q : Request) → q.Reply × σ) (time : σ → Instant) (act : Act α) : Prop :=
  ∀ (evaluator : Evaluator) (d d' : Definition) (s : σ), d.AgreeFrom (time s) d' →
    Alike time (Dialogue.run reply (act evaluator d) s) (Dialogue.run reply (act evaluator d') s)

end Act

namespace Evaluator

section Recache

/-- What came of an act, with another cache. -/
def recache {α : Type} (cache : ResultCache) (r : α × Definition × Evaluator) :
    α × Definition × Evaluator :=
  (r.1, { r.2.1 with cache }, r.2.2)

variable (evaluator : Evaluator) (worker : Worker) (d : Definition) (identity : Identity)
  (cache : ResultCache)

theorem execute_withCache (args : List String) (script : String) :
    evaluator.execute worker { d with cache } identity args script =
      (evaluator.execute worker d identity args script).bind fun r => .done (recache cache r) := by
  have hbindings : evaluator.defaultBindings { d with cache } = evaluator.defaultBindings d := rfl
  unfold execute
  rw [hbindings]
  split
  · rfl
  · simp only [Dialogue.bind_eq, Dialogue.bind_assoc]
    refine congrArg _ (funext fun executed => ?_)
    obtain ⟨result, data⟩ := executed
    cases result with
    | error e => rfl
    | ok v =>
      simp only [Dialogue.bind_assoc]
      refine congrArg _ (funext fun text => ?_)
      cases text with
      | error e => rfl
      | ok text => rfl

theorem compute_withCache (args : List String) :
    evaluator.compute worker { d with cache } identity args =
      (evaluator.compute worker d identity args).bind fun r => .done (recache cache r) := by
  simp only [compute, Dialogue.bind_eq, Dialogue.bind_assoc]
  refine congrArg _ (funext fun scanned => ?_)
  cases scanned with
  | error e => rfl
  | ok script =>
    simp only [Dialogue.bind_assoc]
    refine congrArg _ (funext fun substituted => ?_)
    cases substituted with
    | error e => rfl
    | ok args => exact execute_withCache evaluator worker d identity cache args script

end Recache

variable {σ : Type} {reply : σ → (q : Request) → q.Reply × σ} {time : σ → Instant} {d d' : Definition}
  {s : σ}

theorem cacheKeys?_of_agree {now : Instant} (h : d.AgreeFrom now d') (identity : Identity)
    (args : List String) : cacheKeys? d' identity args = cacheKeys? d identity args := by
  rw [cacheKeys?, cacheKeys?, h.policy_eq]

theorem consult_agree (hclock : ForwardClock reply time) (h : d.AgreeFrom (time s) d')
    (keys : Option (RequesterKey × String)) :
    ∃ hit e e' s', Dialogue.run reply (consult d keys) s = ((hit, e), s') ∧
      Dialogue.run reply (consult d' keys) s = ((hit, e'), s') ∧ e.AgreeFrom (time s') e' := by
  cases keys with
  | none => exact ⟨none, d, d', s, rfl, rfl, h⟩
  | some keys =>
    obtain ⟨requester, key⟩ := keys
    let now := (reply s .now).1
    have hnow : now = time (reply s .now).2 := hclock.reading s
    have hfound := h.cache.lookup_fst (hclock.le_reading s) requester key
    have hafter := h.withCache (h.cache.lookup (hclock.le_reading s) requester key)
    refine ⟨(d.cache.lookup requester key now).1,
      { d with cache := (d.cache.lookup requester key now).2 },
      { d' with cache := (d'.cache.lookup requester key now).2 }, (reply s .now).2, rfl, ?_, hnow ▸ hafter⟩
    rw [← hfound]
    rfl

theorem keep_agree (hclock : ForwardClock reply time) (h : d.AgreeFrom (time s) d') (text : String)
    (keys : Option (RequesterKey × String)) :
    ∃ e e' s', Dialogue.run reply (keep d text keys) s = (e, s') ∧
      Dialogue.run reply (keep d' text keys) s = (e', s') ∧ e.AgreeFrom (time s') e' := by
  cases keys with
  | none => exact ⟨d, d', s, rfl, rfl, h⟩
  | some keys =>
    obtain ⟨requester, key⟩ := keys
    let now := (reply s .now).1
    have hafter := h.withCache (h.cache.store (hclock.le_reading s) requester key text now)
    exact ⟨_, _, (reply s .now).2, rfl, rfl, hclock.reading s ▸ hafter⟩

theorem compute_blind (hclock : ForwardClock reply time) (worker : Worker) (identity : Identity)
    (args : List String) :
    Act.Blind reply time fun evaluator d => evaluator.compute worker d identity args := by
  intro evaluator d d' s h
  obtain ⟨data, hdata⟩ := (compute_ensures evaluator worker d identity args).run reply s
  have hforward := hclock.run (evaluator.compute worker d identity args) s
  -- the run with the other cache is this run, and its cache comes out as it went in
  have hsame := compute_withCache evaluator worker d identity d'.cache args
  rw [← h.same] at hsame
  simp only [hsame, Dialogue.run_bind]
  generalize Dialogue.run reply (evaluator.compute worker d identity args) s = computed
    at hdata hforward
  obtain ⟨⟨result, e, evaluator'⟩, s'⟩ := computed
  obtain rfl : e = { d with data } := hdata
  exact .intro ⟨rfl, h.cache.mono hforward⟩

theorem perform_blind (hclock : ForwardClock reply time) (worker : Worker) (identity : Identity)
    (args : List String) (keys : Option (RequesterKey × String)) :
    Act.Blind reply time fun evaluator d => evaluator.perform worker d identity args keys := by
  intro evaluator d d' s h
  have hcomputed := compute_blind hclock worker identity args evaluator d d' s h
  simp only [perform, Dialogue.bind_eq, Dialogue.run_bind]
  generalize Dialogue.run reply (evaluator.compute worker d identity args) s = computed at hcomputed
  generalize Dialogue.run reply (evaluator.compute worker d' identity args) s = computed'
    at hcomputed
  obtain @⟨result, e, e', evaluator', s', hagree⟩ := hcomputed
  cases result with
  | error _ => exact .intro hagree
  | ok text =>
    obtain ⟨_, _, _, hrun, hrun', hkept⟩ := keep_agree hclock hagree text keys
    simp only [Dialogue.run_bind, hrun, hrun']
    exact .intro hkept

theorem tryEvaluate_blind (hclock : ForwardClock reply time) (worker : Worker) (identity : Identity)
    (args : List String) :
    Act.Blind reply time fun evaluator d => evaluator.tryEvaluate worker d identity args := by
  intro evaluator d d' s h
  obtain ⟨hit, e, e', s', hrun, hrun', hagree⟩ :=
    consult_agree hclock h (cacheKeys? d identity args)
  simp only [tryEvaluate, cacheKeys?_of_agree h, Dialogue.bind_eq, Dialogue.run_bind, hrun, hrun']
  cases hit with
  | some text => exact .intro hagree
  | none => exact perform_blind hclock worker identity args _ evaluator e e' s' hagree

end Evaluator

end PlaceholderScripts
