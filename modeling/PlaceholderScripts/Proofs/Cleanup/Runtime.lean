import PlaceholderScripts.Cleanup
import PlaceholderScripts.Proofs.Evaluation.Agreement
import PlaceholderScripts.Proofs.Evaluation.Session

/-!
# Cleaning while scripts are used

Whoever uses the scripts of a registry does not notice when the cleaning service drops expired results.
A runtime is used move by move: scripts are evaluated, their caches and data are accessed, and time
passes. Evaluations may also be taken in parts, so that they overlap and other moves come between the
look into the cache and the storing of the answer. Cleanings may come anywhere, of the whole registry
or of one cache after the other. Without them every move leads to a runtime that is the same but for
cached results that are expired, and such results never answer anything.
-/

namespace PlaceholderScripts

namespace Registry

structure AgreeFrom (now : Instant) (r r' : Registry) : Prop where
  handles : r'.handles = r.handles
  scripts : ∀ handle, Option.Rel (Definition.AgreeFrom now) (r.definition? handle) (r'.definition? handle)

/-- Drops the expired results of one script. -/
def sweep (now : Instant) (r : Registry) (handle : Handle) : Registry :=
  match r.definition? handle with
  | none => r
  | some d => r.update handle { d with cache := (d.cache.purgeExpired now).2 }

/-- The cleaning of a registry goes through the caches of its scripts one after the other. -/
theorem purgeHandles_snd (reading : Handle → Instant) (handles : List Handle) (r : Registry) :
    (purgeHandles reading handles r).2 = handles.foldl (fun r handle => r.sweep (reading handle) handle) r := by
  induction handles generalizing r with
  | nil => rfl
  | cons handle rest ih =>
    rw [purgeHandles, List.foldl_cons, sweep]
    cases r.definition? handle with
    | none => exact ih r
    | some d => exact ih _

@[simp] theorem update_update (r : Registry) (handle : Handle) (d e : Definition) :
    (r.update handle d).update handle e = r.update handle e := by
  simp [update, List.set_set]

namespace AgreeFrom

variable {now later : Instant} {r r' : Registry} {handle : Handle} {d d' : Definition}

theorem refl (now : Instant) (r : Registry) : AgreeFrom now r r := by
  refine ⟨rfl, fun handle => ?_⟩
  cases r.definition? handle with
  | none => exact .none
  | some d => exact .some (.refl now d)

theorem mono (h : AgreeFrom now r r') (hle : now.nanos ≤ later.nanos) : AgreeFrom later r r' := by
  refine ⟨h.handles, fun handle => ?_⟩
  have hscripts := h.scripts handle
  generalize r.definition? handle = before, r'.definition? handle = before' at hscripts
  cases hscripts with
  | none => exact .none
  | some hagree => exact .some (hagree.mono hle)

theorem definition?_eq_none (h : AgreeFrom now r r') (hd : r.definition? handle = none) :
    r'.definition? handle = none := by
  have hscripts := h.scripts handle
  rw [hd] at hscripts
  generalize r'.definition? handle = after at hscripts
  cases hscripts
  rfl

theorem definition?_eq_some (h : AgreeFrom now r r') (hd : r.definition? handle = some d) :
    ∃ d', r'.definition? handle = some d' ∧ d.AgreeFrom now d' := by
  have hscripts := h.scripts handle
  rw [hd] at hscripts
  generalize r'.definition? handle = after at hscripts
  cases hscripts with
  | some hagree => exact ⟨_, rfl, hagree⟩

theorem update (h : AgreeFrom now r r') (hd : r.definition? handle = some d)
    (hd' : r'.definition? handle = some d') {e e' : Definition} (hagree : e.AgreeFrom now e') :
    AgreeFrom now (r.update handle e) (r'.update handle e') := by
  refine ⟨h.handles, fun other => ?_⟩
  by_cases hother : other = handle
  · subst hother
    rw [definition?_update_self hd, definition?_update_self hd']
    exact .some hagree
  · rw [definition?_update_of_ne hother, definition?_update_of_ne hother]
    exact h.scripts other

theorem sweep (h : AgreeFrom later r r') (hle : now.nanos ≤ later.nanos) (handle : Handle) :
    AgreeFrom later (r.sweep now handle) r' := by
  cases hd : r.definition? handle with
  | none => rwa [Registry.sweep, hd]
  | some d =>
    rw [Registry.sweep, hd]
    refine ⟨h.handles, fun other => ?_⟩
    by_cases hother : other = handle
    · subst hother
      obtain ⟨d', hd', hagree⟩ := h.definition?_eq_some hd
      rw [definition?_update_self hd, hd']
      exact .some ⟨hagree.same, hagree.cache.purgeExpired_left hle⟩
    · rw [definition?_update_of_ne hother]
      exact h.scripts other

theorem purgeExpired (h : AgreeFrom later r r') (hle : now.nanos ≤ later.nanos) :
    AgreeFrom later (r.purgeExpired now).2 r' := by
  rw [Registry.purgeExpired, purgeReading, purgeHandles_snd]
  generalize r.handles.entries.map Prod.snd = handles
  induction handles generalizing r with
  | nil => exact h
  | cons handle rest ih => exact ih (h.sweep hle handle)

theorem tick (h : AgreeFrom later r r') (hle : now.nanos ≤ later.nanos) (service : Cleanup) :
    AgreeFrom later (service.tick now r).2 r' := by
  unfold Cleanup.tick
  split
  · split
    · exact h.purgeExpired hle
    · exact h
  · exact h

end AgreeFrom

end Registry

/-- An evaluation of a script that was begun and is not over. -/
inductive Pending where
  /-- The cache had no answer. -/
  | looked (handle : Handle) (call : Call) (keys : Option (RequesterKey × String))
  /-- The answer is there, and is not stored yet. -/
  | computed (handle : Handle) (text : String) (keys : Option (RequesterKey × String))

/-- Scripts in use: what evaluates them, their registry, and the evaluations under way, by ticket. -/
structure Runtime (σ : Type) where
  evaluator : Evaluator
  registry : Registry
  surroundings : σ
  pending : Nat → Option Pending := fun _ => none

inductive Move (σ : Type) where
  /-- A whole evaluation. -/
  | evaluate (handle : Handle) (call : Call)
  /-- An evaluation begins with a look into the cache. -/
  | consult (ticket : Nat) (handle : Handle) (call : Call)
  /-- The script of an evaluation under way is executed. -/
  | compute (ticket : Nat)
  /-- The answer of an evaluation under way is stored. -/
  | keep (ticket : Nat)
  | cache (handle : Handle) (step : CacheStep)
  | data (handle : Handle) (call : Script.HostCall)
  | reload (handle : Handle)
  /-- Something happens outside. -/
  | elapse (change : σ → σ)
  /-- The whole registry is cleaned at a reading of the clock. -/
  | purge (now : Instant)
  /-- A cleaning service looks at the clock, and cleans if it is time. -/
  | tick (service : Cleanup) (now : Instant)
  /-- One cache is cleaned at a reading of the clock. -/
  | sweep (now : Instant) (handle : Handle)

/-- What can be told from outside. -/
inductive Answer where
  | evaluated (result : Except EvaluationError String)
  | found (text : Option String)
  | replied (call : Script.HostCall) (reply : call.Reply)
  | reloaded (result : Except DataError Unit)

/-- The text of an evaluation that succeeded. -/
def Answer.text? : Answer → Option String
  | .evaluated (.ok text) => some text
  | _ => none

def Move.isCleaning {σ : Type} : Move σ → Bool
  | .purge _ | .tick _ _ | .sweep _ _ => true
  | _ => false

namespace Act

def evaluate (c : Call) : Act (Except EvaluationError String) := fun evaluator d =>
  evaluator.tryEvaluate c.worker d c.identity c.args

/-- Looks into the cache, and gives the keys that were looked under, too. -/
def consult (c : Call) : Act (Option String × Option (RequesterKey × String)) := fun evaluator d => do
  let keys := Evaluator.cacheKeys? d c.identity c.args
  let (hit, d) ← Evaluator.consult d keys
  return ((hit, keys), d, evaluator)

def compute (c : Call) : Act (Except EvaluationError String) := fun evaluator d =>
  evaluator.compute c.worker d c.identity c.args

def keep (text : String) (keys : Option (RequesterKey × String)) : Act Unit := fun evaluator d => do
  return ((), ← Evaluator.keep d text keys, evaluator)

/-- A step of the cache at the time of the clock, and what it answers. -/
def cache (step : CacheStep) : Act (List (Option String)) := fun evaluator d => do
  let now ← Program.now
  return (d.cache.answers [(now, step)], { d with cache := d.cache.step now step }, evaluator)

/-- An access to the data. -/
def data {α : Type} (access : Store → Program (α × Store)) : Act α := fun evaluator d => do
  let (a, data) ← access d.data
  return (a, { d with data }, evaluator)

section Blind

variable {σ : Type} {reply : σ → (q : Request) → q.Reply × σ} {time : σ → Instant}
  (hclock : ForwardClock reply time)
include hclock

theorem consult_blind (c : Call) : (consult c).Blind reply time := by
  intro evaluator d d' s h
  obtain ⟨_, _, _, _, hrun, hrun', hagree⟩ :=
    Evaluator.consult_agree hclock h (Evaluator.cacheKeys? d c.identity c.args)
  simp only [consult, Evaluator.cacheKeys?_of_agree h, Dialogue.bind_eq, Dialogue.run_bind, hrun,
    hrun']
  exact .intro hagree

theorem keep_blind (text : String) (keys : Option (RequesterKey × String)) :
    (keep text keys).Blind reply time := by
  intro evaluator d d' s h
  obtain ⟨_, _, _, hrun, hrun', hagree⟩ := Evaluator.keep_agree hclock h text keys
  simp only [keep, Dialogue.bind_eq, Dialogue.run_bind, hrun, hrun']
  exact .intro hagree

theorem cache_blind (step : CacheStep) : (cache step).Blind reply time := by
  intro evaluator d d' s h
  let now := (reply s .now).1
  have hanswers : d'.cache.answers [(now, step)] = d.cache.answers [(now, step)] :=
    h.cache.answers_singleton (hclock.le_reading s) step
  have hafter : Definition.AgreeFrom now { d with cache := d.cache.step now step }
      { d' with cache := d'.cache.step now step } :=
    h.withCache (h.cache.step (hclock.le_reading s) step)
  change Alike time
    ((d.cache.answers [(now, step)], { d with cache := d.cache.step now step }, evaluator),
      (reply s .now).2)
    ((d'.cache.answers [(now, step)], { d' with cache := d'.cache.step now step }, evaluator),
      (reply s .now).2)
  rw [hanswers]
  exact .intro (hclock.reading s ▸ hafter)

theorem data_blind {α : Type} (access : Store → Program (α × Store)) :
    (data access).Blind reply time := by
  intro evaluator d d' s h
  have hforward := hclock.run (access d.data) s
  simp only [data, Dialogue.bind_eq, Dialogue.run_bind, h.data_eq]
  exact .intro ((h.mono hforward).withData _)

end Blind

end Act

namespace Runtime

variable {σ : Type} (reply : σ → (q : Request) → q.Reply × σ) (time : σ → Instant)

def await (x : Runtime σ) (ticket : Nat) (pending : Option Pending) : Runtime σ :=
  { x with pending := fun other => if other = ticket then pending else x.pending other }

/-- An act on the script of a handle, and what is done next. -/
def perform {α : Type} (x : Runtime σ) (handle : Handle) (act : Act α)
    (next : α → Runtime σ → List Answer × Runtime σ) : List Answer × Runtime σ :=
  match x.registry.definition? handle with
  | none => ([], x)
  | some d =>
    let ((a, d, evaluator), surroundings) := Dialogue.run reply (act x.evaluator d) x.surroundings
    next a { x with evaluator, registry := x.registry.update handle d, surroundings }

def move (x : Runtime σ) : Move σ → List Answer × Runtime σ
  | .evaluate handle c => x.perform reply handle (.evaluate c) fun result x => ([.evaluated result], x)
  | .consult ticket handle c =>
    x.perform reply handle (.consult c) fun (hit, keys) x =>
      match hit with
      | some text => ([.evaluated (.ok text)], x.await ticket none)
      | none => ([], x.await ticket (some (.looked handle c keys)))
  | .compute ticket =>
    match x.pending ticket with
    | some (.looked handle c keys) =>
      x.perform reply handle (.compute c) fun result x =>
        match result with
        | .error e => ([.evaluated (.error e)], x.await ticket none)
        | .ok text => ([], x.await ticket (some (.computed handle text keys)))
    | _ => ([], x)
  | .keep ticket =>
    match x.pending ticket with
    | some (.computed handle text keys) =>
      x.perform reply handle (.keep text keys) fun _ x =>
        ([.evaluated (.ok text)], x.await ticket none)
    | _ => ([], x)
  | .cache handle step => x.perform reply handle (.cache step) fun texts x => (texts.map .found, x)
  | .data handle call =>
    x.perform reply handle (.data fun store => Evaluator.reply store call) fun r x =>
      ([.replied call r], x)
  | .reload handle => x.perform reply handle (.data Store.reload) fun result x => ([.reloaded result], x)
  | .elapse change => ([], { x with surroundings := change x.surroundings })
  | .purge now => ([], { x with registry := (x.registry.purgeExpired now).2 })
  | .tick service now => ([], { x with registry := (service.tick now x.registry).2 })
  | .sweep now handle => ([], { x with registry := x.registry.sweep now handle })

/-- The answers to moves one after the other, and the runtime after them. -/
def run (x : Runtime σ) : List (Move σ) → List Answer × Runtime σ
  | [] => ([], x)
  | m :: rest =>
    let (answers, x) := x.move reply m
    let (more, x) := x.run rest
    (answers ++ more, x)

/-- A cleaning reads the clock no later than the present, and nothing that happens sets the clock back. -/
def InTime (x : Runtime σ) : Move σ → Prop
  | .elapse change => (time x.surroundings).nanos ≤ (time (change x.surroundings)).nanos
  | .purge now | .tick _ now | .sweep now _ => now.nanos ≤ (time x.surroundings).nanos
  | _ => True

def InClockOrder (x : Runtime σ) : List (Move σ) → Prop
  | [] => True
  | m :: rest => x.InTime time m ∧ (x.move reply m).2.InClockOrder rest

variable {reply} {time}

theorem run_cons (x : Runtime σ) (m : Move σ) (rest : List (Move σ)) :
    x.run reply (m :: rest) =
      ((x.move reply m).1 ++ ((x.move reply m).2.run reply rest).1,
        ((x.move reply m).2.run reply rest).2) := rfl

/-- Whatever is put under a free ticket, nothing of it is left when the ticket is free again. -/
theorem pending_of_freed {pending : Nat → Option Pending} {ticket : Nat} (later : Nat → Option Pending)
    (hfree : pending ticket = none) (hothers : ∀ other, other ≠ ticket → later other = pending other) :
    (fun other => if other = ticket then none else later other) = pending := by
  funext other
  by_cases hother : other = ticket
  · rw [if_pos hother, hother, hfree]
  · rw [if_neg hother, hothers other hother]

theorem run_consult {c : Call} (evaluator : Evaluator) {d d₁ : Definition} {s s₁ : σ} {hit : Option String}
    (h : Dialogue.run reply (Evaluator.consult d (Evaluator.cacheKeys? d c.identity c.args)) s =
      ((hit, d₁), s₁)) :
    Dialogue.run reply (Act.consult c evaluator d) s =
      (((hit, Evaluator.cacheKeys? d c.identity c.args), d₁, evaluator), s₁) := by
  simp only [Act.consult, Dialogue.bind_eq, Dialogue.run_bind, h]
  rfl

theorem run_evaluate {c : Call} (evaluator : Evaluator) {d d₁ : Definition} {s s₁ : σ} {hit : Option String}
    (h : Dialogue.run reply (Evaluator.consult d (Evaluator.cacheKeys? d c.identity c.args)) s =
      ((hit, d₁), s₁)) :
    Dialogue.run reply (Act.evaluate c evaluator d) s =
      Dialogue.run reply
        (match hit with
          | some text => .done (.ok text, d₁, evaluator)
          | none => evaluator.perform c.worker d₁ c.identity c.args
            (Evaluator.cacheKeys? d c.identity c.args)) s₁ := by
  simp only [Act.evaluate, Evaluator.tryEvaluate, Dialogue.bind_eq, Dialogue.run_bind, h]
  cases hit <;> rfl

/-- The parts of an evaluation one after the other are the whole evaluation. -/
theorem run_parts (x : Runtime σ) (ticket : Nat) (handle : Handle) (c : Call)
    (hticket : x.pending ticket = none) :
    x.run reply [.consult ticket handle c, .compute ticket, .keep ticket] =
      x.move reply (.evaluate handle c) := by
  -- under the ticket there is nothing, or what one part left, or what the second part put over it
  have hlooked (pending : Option Pending) :=
    pending_of_freed (fun other => if other = ticket then pending else x.pending other) hticket
      fun _ hother => if_neg hother
  have hcomputed (pending pending' : Option Pending) :=
    pending_of_freed (fun other => if other = ticket then pending else
      if other = ticket then pending' else x.pending other) hticket
      fun _ hother => (if_neg hother).trans (if_neg hother)
  cases hd : x.registry.definition? handle with
  | none => simp [run, move, perform, hd, hticket]
  | some d =>
    rcases hlook : Dialogue.run reply (Evaluator.consult d (Evaluator.cacheKeys? d c.identity c.args))
      x.surroundings with ⟨⟨hit, d₁⟩, s₁⟩
    have hconsult := run_consult x.evaluator hlook
    have hwhole := run_evaluate x.evaluator hlook
    cases hit with
    | some text =>
      simp [run, move, perform, await, hd, hconsult, hwhole, hticket,
        pending_of_freed x.pending hticket fun _ _ => rfl]
    | none =>
      have hd₁ := Registry.definition?_update_self hd d₁
      rcases hcompute : Dialogue.run reply (x.evaluator.compute c.worker d₁ c.identity c.args) s₁ with
        ⟨⟨result, d₂, evaluator⟩, s₂⟩
      have hd₂ := Registry.definition?_update_self hd d₂
      simp only [Evaluator.perform, Dialogue.bind_eq, Dialogue.run_bind, hcompute] at hwhole
      cases result with
      | error e =>
        simp [run, move, perform, await, Act.compute, hd, hconsult, hwhole, hd₁, hcompute, hticket,
          hlooked]
      | ok text =>
        rcases hkeep : Dialogue.run reply
          (Evaluator.keep d₂ text (Evaluator.cacheKeys? d c.identity c.args)) s₂ with ⟨d₃, s₃⟩
        simp only [Dialogue.run_bind, hkeep] at hwhole
        simp [run, move, perform, await, Act.compute, Act.keep, Dialogue.run_bind, hd, hconsult,
          hwhole, hd₁, hcompute, hd₂, hkeep, hcomputed]

structure Alike (time : σ → Instant) (x y : Runtime σ) : Prop where
  evaluator : y.evaluator = x.evaluator
  surroundings : y.surroundings = x.surroundings
  pending : y.pending = x.pending
  registry : x.registry.AgreeFrom (time x.surroundings) y.registry

theorem Alike.refl (x : Runtime σ) : Alike time x x := ⟨rfl, rfl, rfl, .refl _ _⟩

def Matched (time : σ → Instant) (p q : List Answer × Runtime σ) : Prop :=
  q.1 = p.1 ∧ Alike time p.2 q.2

theorem Alike.matched {x y : Runtime σ} (h : Alike time x y) (answers : List Answer) :
    Matched time (answers, x) (answers, y) := ⟨rfl, h⟩

theorem Alike.await {x y : Runtime σ} (h : Alike time x y) (ticket : Nat) (pending : Option Pending) :
    Alike time (x.await ticket pending) (y.await ticket pending) :=
  ⟨h.evaluator, h.surroundings, by rw [Runtime.await, Runtime.await, h.pending], h.registry⟩

/-- A blind act comes to the same in both runtimes, and leaves them alike. -/
theorem Alike.perform {α : Type} {act : Act α} (hclock : ForwardClock reply time)
    (hact : act.Blind reply time) {next : α → Runtime σ → List Answer × Runtime σ}
    (hnext : ∀ a x y, Alike time x y → Matched time (next a x) (next a y)) {x y : Runtime σ}
    (h : Alike time x y) (handle : Handle) :
    Matched time (x.perform reply handle act next) (y.perform reply handle act next) := by
  cases hd : x.registry.definition? handle with
  | none =>
    simp only [Runtime.perform, hd, h.registry.definition?_eq_none hd]
    exact h.matched []
  | some d =>
    obtain ⟨d', hd', hagree⟩ := h.registry.definition?_eq_some hd
    have hforward := hclock.run (act x.evaluator d) x.surroundings
    have hran := hact x.evaluator d d' x.surroundings hagree
    simp only [Runtime.perform, hd, hd', h.evaluator, h.surroundings]
    generalize Dialogue.run reply (act x.evaluator d) x.surroundings = ran at hforward hran
    generalize Dialogue.run reply (act x.evaluator d') x.surroundings = ran' at hran
    obtain @⟨a, e, e', evaluator, s, hended⟩ := hran
    exact hnext a _ _ ⟨rfl, rfl, h.pending, (h.registry.mono hforward).update hd hd' hended⟩

/-- Every move that is no cleaning comes to the same in runtimes that are alike. -/
theorem Alike.move (hclock : ForwardClock reply time) {x y : Runtime σ} (h : Alike time x y)
    {m : Move σ} (htime : x.InTime time m) (hm : m.isCleaning = false) :
    Matched time (x.move reply m) (y.move reply m) := by
  cases m with
  | evaluate handle c =>
    exact h.perform hclock (Evaluator.tryEvaluate_blind hclock _ _ _)
      (fun result x y h => h.matched [.evaluated result]) handle
  | consult ticket handle c =>
    refine h.perform hclock (Act.consult_blind hclock c) (fun found x y h => ?_) handle
    obtain ⟨hit, keys⟩ := found
    cases hit with
    | some text => exact (h.await ticket none).matched _
    | none => exact (h.await ticket _).matched []
  | compute ticket =>
    simp only [Runtime.move, h.pending]
    cases x.pending ticket with
    | none => exact h.matched []
    | some pending =>
      cases pending with
      | computed handle text keys => exact h.matched []
      | looked handle c keys =>
        refine h.perform hclock (Evaluator.compute_blind hclock _ _ _) (fun result x y h => ?_) handle
        cases result with
        | error e => exact (h.await ticket none).matched _
        | ok text => exact (h.await ticket _).matched []
  | keep ticket =>
    simp only [Runtime.move, h.pending]
    cases x.pending ticket with
    | none => exact h.matched []
    | some pending =>
      cases pending with
      | looked handle c keys => exact h.matched []
      | computed handle text keys =>
        exact h.perform hclock (Act.keep_blind hclock text keys)
          (fun _ x y h => (h.await ticket none).matched _) handle
  | cache handle step =>
    exact h.perform hclock (Act.cache_blind hclock step)
      (fun texts x y h => h.matched (texts.map .found)) handle
  | data handle call =>
    exact h.perform hclock (Act.data_blind hclock _)
      (fun r x y h => h.matched [.replied call r]) handle
  | reload handle =>
    exact h.perform hclock (Act.data_blind hclock _)
      (fun result x y h => h.matched [.reloaded result]) handle
  | elapse change =>
    refine ⟨rfl, h.evaluator, congrArg change h.surroundings, h.pending, ?_⟩
    exact h.registry.mono htime
  | purge | tick | sweep => exact nomatch hm

variable (reply) in
/-- A cleaning answers nothing, and leaves the runtime like one that is not cleaned. -/
theorem Alike.clean {x y : Runtime σ} (h : Alike time x y) {m : Move σ} (htime : x.InTime time m)
    (hm : m.isCleaning = true) : Matched time (x.move reply m) ([], y) := by
  cases m with
  | purge now =>
    exact ⟨rfl, h.evaluator, h.surroundings, h.pending, h.registry.purgeExpired htime⟩
  | tick service now =>
    exact ⟨rfl, h.evaluator, h.surroundings, h.pending, h.registry.tick htime service⟩
  | sweep now handle =>
    exact ⟨rfl, h.evaluator, h.surroundings, h.pending, h.registry.sweep htime handle⟩
  | evaluate | consult | compute | keep | cache | data | reload | elapse => exact nomatch hm

theorem Alike.run (hclock : ForwardClock reply time) {x y : Runtime σ} (h : Alike time x y)
    {moves : List (Move σ)} (horder : x.InClockOrder reply time moves) :
    Matched time (x.run reply moves) (y.run reply (moves.filter fun m => !m.isCleaning)) := by
  -- the runtimes stay alike, whether both of them take the move or only the first
  induction moves generalizing x y with
  | nil => exact h.matched []
  | cons m rest ih =>
    obtain ⟨htime, horder⟩ := horder
    cases hm : m.isCleaning with
    | true =>
      obtain ⟨hanswers, halike⟩ := h.clean reply htime hm
      obtain ⟨hmore, hafter⟩ := ih halike horder
      rw [List.filter_cons_of_neg (by simp [hm])]
      refine ⟨?_, hafter⟩
      rw [hmore, Runtime.run_cons, ← hanswers]
      rfl
    | false =>
      obtain ⟨hanswers, halike⟩ := h.move hclock htime hm
      obtain ⟨hmore, hafter⟩ := ih halike horder
      rw [List.filter_cons_of_pos (by simp [hm])]
      refine ⟨?_, hafter⟩
      rw [Runtime.run_cons, Runtime.run_cons, hanswers, hmore]

/-- Cleaning is invisible. Whatever is done with the scripts of a registry, and whenever caches are cleaned
in between, all answers and the data of all scripts are what they are without the cleanings. So is
everything else but for cached results that are expired. -/
theorem cleaning_is_invisible (hclock : ForwardClock reply time) (x : Runtime σ)
    (moves : List (Move σ)) (horder : x.InClockOrder reply time moves) :
    let cleaned := x.run reply moves
    let plain := x.run reply (moves.filter fun m => !m.isCleaning)
    cleaned.1 = plain.1 ∧
      (∀ handle, (cleaned.2.registry.definition? handle).map Definition.data =
        (plain.2.registry.definition? handle).map Definition.data) ∧
      cleaned.2.evaluator = plain.2.evaluator ∧
      cleaned.2.surroundings = plain.2.surroundings ∧
      cleaned.2.pending = plain.2.pending ∧
      cleaned.2.registry.AgreeFrom (time plain.2.surroundings) plain.2.registry := by
  intro cleaned plain
  obtain ⟨hanswers, halike⟩ := (Alike.refl x).run hclock horder
  refine ⟨hanswers.symm, fun handle => ?_, halike.evaluator.symm, halike.surroundings.symm,
    halike.pending.symm, ?_⟩
  · cases hd : cleaned.2.registry.definition? handle with
    | none => rw [halike.registry.definition?_eq_none hd]
    | some d =>
      obtain ⟨d', hd', hagree⟩ := halike.registry.definition?_eq_some hd
      rw [hd', Option.map_some, Option.map_some, hagree.data_eq]
  · rw [halike.surroundings]
    exact halike.registry

/-- A script that shows a value, and the results of which live for five nanoseconds. -/
def showing : Definition :=
  { Definition.ephemeral "show" "Data.get(\"\")" with
    cache := .new ((CachePolicy.timeBoxed? .zero 5 .nanoseconds).toOption.getD .disabled) }

/-- A player calls twice and another one once, while the value changes. Caches are cleaned inside the first
call, right behind it, and when its result has expired. -/
def showingMoves : List (Move World) :=
  let player (id : PlayerId) : Call := ⟨0, .offline ⟨id, none, false⟩, []⟩
  let reading (n : Nat) : Instant := (Instant.ofNanos? n).getD .zero
  [.data 0 (.set "" (.bool true)), .consult 0 0 (player ⟨7⟩), .compute 0, .sweep (reading 1) 0,
    .keep 0, .sweep (reading 2) 0, .data 0 (.set "" (.bool false)), .evaluate 0 (player ⟨7⟩),
    .elapse fun world => { world with clock := reading 7 }, .purge (reading 7),
    .evaluate 0 (player ⟨8⟩)]

/-- The second call is answered from the cache still, and the third executes the script. Only the number of
cached results tells the runs apart. -/
theorem cleaning_is_invisible_showing :
    let x : Runtime World :=
      { evaluator := .new { library := ⟨[]⟩, rounds := 10 } {}
        registry := (({} : Registry).register showing).2
        surroundings := ⟨⟨[], []⟩, .zero, fun _ _ text => .ok text⟩ }
    let cleaned := x.run World.tickingReply showingMoves
    let plain := x.run World.tickingReply (showingMoves.filter fun m => !m.isCleaning)
    let cached (x : Runtime World) := (x.registry.definition? 0).map fun d => d.cache.size
    ForwardClock World.tickingReply World.clock ∧
      x.InClockOrder World.tickingReply World.clock showingMoves ∧
      cleaned.1 = plain.1 ∧ plain.1.filterMap Answer.text? = ["true", "true", "false"] ∧
      cached cleaned.2 = some 1 ∧ cached plain.2 = some 2 := by
  intro x cleaned plain cached
  have horder : x.InClockOrder World.tickingReply World.clock showingMoves := by
    refine ⟨trivial, trivial, trivial, ?_, trivial, ?_, trivial, trivial, ?_, ?_, trivial, trivial⟩ <;>
      change Instant.nanos _ ≤ Instant.nanos _
    all_goals decide +kernel
  have hinvisible := cleaning_is_invisible World.forwardClock_ticking x showingMoves horder
  refine ⟨World.forwardClock_ticking, horder, hinvisible.1, ?_, ?_, ?_⟩
  all_goals decide +kernel

end Runtime

end PlaceholderScripts
