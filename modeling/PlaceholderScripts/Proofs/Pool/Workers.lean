import Mathlib.Data.Finset.Card
import Mathlib.Logic.Function.Basic
import PlaceholderScripts.Pool

/-!
# Workers that share a pool

A worker that wants a context looks for its interpreter. If there is none it makes one, which may fail, and
puts it into its slot afterwards. Nothing is locked between these parts, so that other workers go on in the
meantime, and whatever makes interpreters may have changed at the next attempt. Even so every worker
has one interpreter for all of its contexts, and no other worker has the same.
-/

namespace PlaceholderScripts

theorem nodup_map_concat {α β : Type} {f : α → β} {l : List α} {a : α} (h : (l.map f).Nodup)
    (hnew : ∀ b ∈ l, f b ≠ f a) : ((l ++ [a]).map f).Nodup := by
  rw [List.map_append, List.nodup_append]
  refine ⟨h, List.nodup_singleton _, ?_⟩
  intro old hold new hnewest
  obtain ⟨b, hb, rfl⟩ := List.mem_map.mp hold
  rw [List.mem_singleton.mp hnewest]
  exact hnew b hb

theorem Factory.serial_of_create {factory : Factory} {serial : Nat} {interpreter : Interpreter}
    (h : factory.create serial = .ok interpreter) : interpreter.serial = serial := by
  rw [create] at h
  cases hmodules : instantiateAll factory.rounds [] factory.library.modules with
  | error e =>
    rw [hmodules] at h
    nomatch h
  | ok modules =>
    rw [hmodules] at h
    exact (congrArg Interpreter.serial (Except.ok.inj h)).symm

namespace Pool

theorem lookup_cons_eq (owner other : Worker) (interpreter : Interpreter)
    (slots : List (Worker × Interpreter)) :
    ((owner, interpreter) :: slots).lookup other =
      if other = owner then some interpreter else slots.lookup other := by
  by_cases hother : other = owner
  · simp [hother]
  · simp [List.lookup_cons, beq_false_of_ne hother, hother]

theorem lookup_filter_ne (slots : List (Worker × Interpreter)) (worker other : Worker) :
    (slots.filter fun s => s.1 ≠ worker).lookup other =
      if other = worker then none else slots.lookup other := by
  induction slots with
  | nil => simp
  | cons slot rest ih =>
    obtain ⟨owner, interpreter⟩ := slot
    by_cases howner : owner = worker
    · rw [List.filter_cons_of_neg (by simpa using howner), ih, lookup_cons_eq, howner]
      by_cases hother : other = worker <;> simp [hother]
    · rw [List.filter_cons_of_pos (by simpa using howner), lookup_cons_eq, lookup_cons_eq, ih]
      by_cases hother : other = worker
      · simp [hother, Ne.symm howner]
      · simp [hother]

theorem interpreter?_insert (pool : Pool) (worker other : Worker) (interpreter : Interpreter) :
    (pool.insert worker interpreter).interpreter? other =
      if other = worker then some interpreter else pool.interpreter? other := by
  rw [Pool.interpreter?, insert, List.lookup_append, lookup_filter_ne, lookup_cons_eq]
  by_cases hother : other = worker
  · simp [hother]
  · simp [hother, Pool.interpreter?]

theorem mem_owners_iff {pool : Pool} {worker : Worker} :
    worker ∈ pool.slots.map Prod.fst ↔ ∃ interpreter, pool.interpreter? worker = some interpreter := by
  constructor
  · intro hmem
    obtain ⟨slot, hslot, rfl⟩ := List.mem_map.mp hmem
    rw [← Option.ne_none_iff_exists']
    intro hnone
    have hne := List.lookup_eq_none_iff.mp hnone slot hslot
    simp at hne
  · rintro ⟨interpreter, hthere⟩
    obtain ⟨before, after, hslots, -⟩ := List.lookup_eq_some_iff.mp hthere
    simp [hslots]

theorem nodup_insert {pool : Pool} (h : (pool.slots.map Prod.fst).Nodup) (worker : Worker)
    (interpreter : Interpreter) :
    ((pool.insert worker interpreter).slots.map Prod.fst).Nodup := by
  have hsub : ((pool.slots.filter fun s => s.1 ≠ worker).map Prod.fst).Nodup :=
    h.sublist (List.filter_sublist.map _)
  exact nodup_map_concat hsub fun slot hslot => of_decide_eq_true (List.mem_filter.mp hslot).2

end Pool

inductive Acquisition where
  | idle
  /-- The worker found no interpreter of its own. -/
  | missed (defaults : Bindings)
  /-- The worker has made an interpreter that is not in its slot yet. -/
  | made (defaults : Bindings) (interpreter : Interpreter)

/-- The interpreter that a worker has at hand before it is in a slot. -/
def Acquisition.interpreter? : Acquisition → Option Interpreter
  | .idle | .missed _ => none
  | .made _ interpreter => some interpreter

/-- A pool, what its workers do, and what they have done, the earliest first: the interpreters that
they made, and the contexts that they got. -/
structure Workshop where
  pool : Pool
  stage : Worker → Acquisition := fun _ => .idle
  made : List (Worker × Interpreter) := []
  granted : List (Worker × Context) := []

inductive WorkStep where
  | look (worker : Worker) (defaults : Bindings)
  | create (worker : Worker)
  | insert (worker : Worker)
  | refit (factory : Factory)

def WorkStep.worker? : WorkStep → Option Worker
  | .look worker _ | .create worker | .insert worker => some worker
  | .refit _ => none

namespace Workshop

def start (factory : Factory) : Workshop := { pool := { factory } }

/-- An idle worker starts to get a context. -/
def look (x : Workshop) (worker : Worker) (defaults : Bindings) : Workshop :=
  match x.stage worker with
  | .idle =>
    match x.pool.interpreter? worker with
    | some interpreter =>
      { x with granted := x.granted ++ [(worker, x.pool.context interpreter defaults)] }
    | none => { x with stage := Function.update x.stage worker (.missed defaults) }
  | _ => x

/-- A worker without an interpreter tries to make one. It gives up if that fails. -/
def create (x : Workshop) (worker : Worker) : Workshop :=
  match x.stage worker with
  | .missed defaults =>
    match x.pool.create with
    | (.ok interpreter, pool) =>
      { x with
        pool
        stage := Function.update x.stage worker (.made defaults interpreter)
        made := x.made ++ [(worker, interpreter)] }
    | (.error _, pool) => { x with pool, stage := Function.update x.stage worker .idle }
  | _ => x

/-- A worker keeps the interpreter that it has made. -/
def insert (x : Workshop) (worker : Worker) : Workshop :=
  match x.stage worker with
  | .made defaults interpreter =>
    { x with
      pool := x.pool.insert worker interpreter
      stage := Function.update x.stage worker .idle
      granted := x.granted ++ [(worker, x.pool.context interpreter defaults)] }
  | _ => x

def step (x : Workshop) : WorkStep → Workshop
  | .look worker defaults => x.look worker defaults
  | .create worker => x.create worker
  | .insert worker => x.insert worker
  | .refit factory => { x with pool := { x.pool with factory } }

def run (x : Workshop) (steps : List WorkStep) : Workshop := steps.foldl step x

def first? (x : Workshop) (worker : Worker) : Option Interpreter := x.made.lookup worker

theorem mem_of_first? {x : Workshop} {worker : Worker} {interpreter : Interpreter}
    (h : x.first? worker = some interpreter) : (worker, interpreter) ∈ x.made := by
  obtain ⟨before, after, hmade, -⟩ := List.lookup_eq_some_iff.mp h
  rw [hmade]
  exact List.mem_append_right _ List.mem_cons_self

structure Sound (x : Workshop) : Prop where
  slots : (x.pool.slots.map Prod.fst).Nodup
  makers : (x.made.map Prod.fst).Nodup
  serials : (x.made.map fun m => m.2.serial).Nodup
  numbered : ∀ m ∈ x.made, m.2.serial < x.pool.next
  first : ∀ worker, x.first? worker = (x.pool.interpreter? worker).or (x.stage worker).interpreter?
  empty : ∀ worker, x.stage worker ≠ .idle → x.pool.interpreter? worker = none
  granted : ∀ worker context, (worker, context) ∈ x.granted →
    x.pool.interpreter? worker = some context.interpreter
  served : ∀ worker interpreter, x.pool.interpreter? worker = some interpreter →
    ∃ context, (worker, context) ∈ x.granted

namespace Sound

variable {x : Workshop}

theorem start (factory : Factory) : (start factory).Sound where
  slots := List.nodup_nil
  makers := List.nodup_nil
  serials := List.nodup_nil
  numbered := fun _ h => absurd h List.not_mem_nil
  first := fun _ => rfl
  empty := fun _ _ => rfl
  granted := fun _ _ h => absurd h List.not_mem_nil
  served := fun _ _ h => nomatch h

theorem grant (h : x.Sound) {worker : Worker} {context : Context}
    (hthere : x.pool.interpreter? worker = some context.interpreter) :
    Sound { x with granted := x.granted ++ [(worker, context)] } := by
  refine { h with granted := fun v other hmem => ?_, served := fun v interpreter hv => ?_ }
  · rcases List.mem_append.mp hmem with hold | hnew
    · exact h.granted v other hold
    · obtain ⟨rfl, rfl⟩ := Prod.mk.inj (List.mem_singleton.mp hnew)
      exact hthere
  · obtain ⟨other, hother⟩ := h.served v interpreter hv
    exact ⟨other, List.mem_append_left _ hother⟩

theorem empty_update (h : x.Sound) {worker : Worker} (hempty : x.pool.interpreter? worker = none)
    {stage : Acquisition} (v : Worker) (hv : Function.update x.stage worker stage v ≠ .idle) :
    x.pool.interpreter? v = none := by
  by_cases hworker : v = worker
  · subst hworker
    exact hempty
  · exact h.empty v (by simpa [hworker] using hv)

/-- A worker may go on to a stage in which it has no other interpreter at hand. -/
theorem restage (h : x.Sound) {worker : Worker} {stage : Acquisition}
    (hsame : stage.interpreter? = (x.stage worker).interpreter?)
    (hempty : x.pool.interpreter? worker = none) :
    Sound { x with stage := Function.update x.stage worker stage } := by
  refine { h with first := fun v => ?_, empty := h.empty_update hempty }
  refine (h.first v).trans ?_
  by_cases hworker : v = worker
  · subst hworker
    simp [hsame]
  · simp [hworker]

theorem skip (h : x.Sound) (factory : Factory) {next : Nat} (hnext : x.pool.next ≤ next) :
    Sound { x with pool := { x.pool with factory, next } } :=
  { h with numbered := fun m hm => Nat.lt_of_lt_of_le (h.numbered m hm) hnext }

theorem first?_of_missed (h : x.Sound) {worker : Worker} {defaults : Bindings}
    (hmissed : x.stage worker = .missed defaults) : x.first? worker = none := by
  have hempty : x.pool.interpreter? worker = none := h.empty worker (by simp [hmissed])
  rw [h.first, hempty, hmissed]
  rfl

theorem make (h : x.Sound) {worker : Worker} {defaults : Bindings} {interpreter : Interpreter}
    (hmissed : x.stage worker = .missed defaults) (hserial : interpreter.serial = x.pool.next) :
    Sound { x with
      pool := { x.pool with next := x.pool.next + 1 }
      stage := Function.update x.stage worker (.made defaults interpreter)
      made := x.made ++ [(worker, interpreter)] } := by
  have hempty : x.pool.interpreter? worker = none := h.empty worker (by simp [hmissed])
  have hnone : x.made.lookup worker = none := h.first?_of_missed hmissed
  refine { h with
    makers := ?_
    serials := ?_
    numbered := ?_
    first := ?_
    empty := h.empty_update hempty }
  · refine nodup_map_concat h.makers fun m hm => ?_
    have hne := List.lookup_eq_none_iff.mp hnone m hm
    exact (ne_of_beq_false (by simpa using hne)).symm
  · -- the new number is the next one, and all others are below
    refine nodup_map_concat h.serials fun m hm => ?_
    have hlt := h.numbered m hm
    show m.2.serial ≠ interpreter.serial
    omega
  · intro m hm
    show m.2.serial < x.pool.next + 1
    rcases List.mem_append.mp hm with hold | hnew
    · have hlt := h.numbered m hold
      omega
    · rw [List.mem_singleton.mp hnew, hserial]
      omega
  · intro v
    have hslots : ({ x.pool with next := x.pool.next + 1 } : Pool).interpreter? v =
        x.pool.interpreter? v := rfl
    have hfirst : x.made.lookup v = (x.pool.interpreter? v).or (x.stage v).interpreter? := h.first v
    show (x.made ++ [(worker, interpreter)]).lookup v = _
    rw [hslots, List.lookup_append, Pool.lookup_cons_eq]
    by_cases hworker : v = worker
    · subst hworker
      simp [hnone, hempty, Acquisition.interpreter?]
    · simp [hworker, hfirst]

theorem fill (h : x.Sound) {worker : Worker} {defaults : Bindings} {interpreter : Interpreter}
    {context : Context} (hmade : x.stage worker = .made defaults interpreter)
    (hcontext : context.interpreter = interpreter) :
    Sound { x with
      pool := x.pool.insert worker interpreter
      stage := Function.update x.stage worker .idle
      granted := x.granted ++ [(worker, context)] } := by
  have hempty : x.pool.interpreter? worker = none := h.empty worker (by simp [hmade])
  refine { h with
    slots := Pool.nodup_insert h.slots worker interpreter
    first := ?_
    empty := ?_
    granted := ?_
    served := ?_ }
  · intro v
    refine (h.first v).trans ?_
    rw [Pool.interpreter?_insert]
    by_cases hworker : v = worker
    · subst hworker
      simp [hmade, hempty, Acquisition.interpreter?]
    · simp [hworker]
  · intro v hv
    rw [Pool.interpreter?_insert]
    by_cases hworker : v = worker
    · subst hworker
      simp at hv
    · rw [if_neg hworker]
      exact h.empty v (by simpa [hworker] using hv)
  · intro v other hmem
    rw [Pool.interpreter?_insert]
    rcases List.mem_append.mp hmem with hold | hnew
    · have hthere := h.granted v other hold
      have hworker : v ≠ worker := by
        rintro rfl
        rw [hempty] at hthere
        nomatch hthere
      rw [if_neg hworker, hthere]
    · obtain ⟨rfl, rfl⟩ := Prod.mk.inj (List.mem_singleton.mp hnew)
      rw [if_pos rfl, hcontext]
  · intro v other hv
    rw [Pool.interpreter?_insert] at hv
    by_cases hworker : v = worker
    · subst hworker
      exact ⟨context, by simp⟩
    · rw [if_neg hworker] at hv
      obtain ⟨old, hold⟩ := h.served v other hv
      exact ⟨old, List.mem_append_left _ hold⟩

theorem look (h : x.Sound) (worker : Worker) (defaults : Bindings) :
    (x.look worker defaults).Sound := by
  rw [Workshop.look]
  split
  · next hidle =>
    split
    · next interpreter hthere => exact h.grant hthere
    · next hnone => exact h.restage (by rw [hidle]; rfl) hnone
  · exact h

theorem create (h : x.Sound) (worker : Worker) : (x.create worker).Sound := by
  rw [Workshop.create]
  split
  · next defaults hmissed =>
    have hempty : x.pool.interpreter? worker = none := h.empty worker (by simp [hmissed])
    split
    · next interpreter pool hcreate =>
      obtain ⟨hmade, rfl⟩ := Prod.mk.inj hcreate
      exact h.make hmissed (Factory.serial_of_create hmade)
    · next e pool hcreate =>
      obtain ⟨-, rfl⟩ := Prod.mk.inj hcreate
      -- the attempt has used up a number all the same
      have hskipped := h.skip x.pool.factory (Nat.le_succ x.pool.next)
      exact hskipped.restage (by rw [hmissed]; rfl) hempty
  · exact h

theorem insert (h : x.Sound) (worker : Worker) : (x.insert worker).Sound := by
  rw [Workshop.insert]
  split
  · next defaults interpreter hmade => exact h.fill hmade rfl
  · exact h

theorem step (h : x.Sound) (s : WorkStep) : (x.step s).Sound := by
  cases s with
  | look worker defaults => exact h.look worker defaults
  | create worker => exact h.create worker
  | insert worker => exact h.insert worker
  | refit factory => exact h.skip factory (Nat.le_refl _)

theorem run (h : x.Sound) (steps : List WorkStep) : (x.run steps).Sound := by
  induction steps generalizing x with
  | nil => exact h
  | cons s rest ih => exact ih (h.step s)

end Sound

section Frame

variable {x : Workshop} {worker : Worker}

theorem create_of_error {defaults : Bindings} {e : CreationError}
    (hmissed : x.stage worker = .missed defaults) (herror : x.pool.create.1 = .error e) :
    x.create worker = { x with
      pool := x.pool.create.2
      stage := Function.update x.stage worker .idle } := by
  have hcreate : x.pool.create = (.error e, x.pool.create.2) := Prod.ext herror rfl
  rw [create, hmissed, hcreate]

/-- The parts in a row, with nothing else in between, are an acquisition. -/
theorem run_acquire (hidle : x.stage worker = .idle) (defaults : Bindings) :
    let y := x.run [.look worker defaults, .create worker, .insert worker]
    y.pool = (x.pool.acquire worker defaults).2 ∧ y.stage = x.stage ∧
      y.granted = x.granted ++
        ((x.pool.acquire worker defaults).1.toOption.map fun context => (worker, context)).toList := by
  intro y
  have hback : ∀ stage, Function.update (Function.update x.stage worker stage) worker .idle = x.stage := by
    intro stage
    rw [Function.update_idem, ← hidle, Function.update_eq_self]
  cases hthere : x.pool.interpreter? worker with
  | some interpreter =>
    have hlook : x.look worker defaults =
        { x with granted := x.granted ++ [(worker, x.pool.context interpreter defaults)] } := by
      rw [look, hidle, hthere]
    have hy : y = x.look worker defaults := by simp [y, run, step, hlook, create, insert, hidle]
    rw [hy, hlook, Pool.acquire, hthere]
    exact ⟨rfl, rfl, rfl⟩
  | none =>
    have hlook : x.look worker defaults =
        { x with stage := Function.update x.stage worker (.missed defaults) } := by
      rw [look, hidle, hthere]
    rcases hcreate : x.pool.create with ⟨e | interpreter, pool⟩
    · have hacquire : x.pool.acquire worker defaults = (.error e, pool) := by
        rw [Pool.acquire, hthere, hcreate]
      have hy : y = { x with pool } := by
        simp [y, run, step, hlook, create, insert, hcreate, hback, hidle]
      rw [hy, hacquire]
      simp [Except.toOption]
    · have hacquire : x.pool.acquire worker defaults =
          (.ok (pool.context interpreter defaults), pool.insert worker interpreter) := by
        rw [Pool.acquire, hthere, hcreate]
      have hy : y = { x with
          pool := pool.insert worker interpreter
          made := x.made ++ [(worker, interpreter)]
          granted := x.granted ++ [(worker, pool.context interpreter defaults)] } := by
        simp [y, run, step, hlook, create, insert, hcreate, hback]
      rw [hy, hacquire]
      exact ⟨rfl, rfl, rfl⟩

theorem step_of_other {s : WorkStep} (hs : s.worker? ≠ some worker) :
    (x.step s).stage worker = x.stage worker ∧
      (x.step s).pool.interpreter? worker = x.pool.interpreter? worker := by
  cases s with
  | look other defaults =>
    have hother : worker ≠ other := fun heq => hs (heq ▸ rfl)
    rw [step, look]
    split
    · split
      · exact ⟨rfl, rfl⟩
      · exact ⟨Function.update_of_ne hother _ _, rfl⟩
    · exact ⟨rfl, rfl⟩
  | create other =>
    have hother : worker ≠ other := fun heq => hs (heq ▸ rfl)
    rw [step, create]
    split
    · split
      · next hcreate =>
        obtain ⟨-, rfl⟩ := Prod.mk.inj hcreate
        exact ⟨Function.update_of_ne hother _ _, rfl⟩
      · next hcreate =>
        obtain ⟨-, rfl⟩ := Prod.mk.inj hcreate
        exact ⟨Function.update_of_ne hother _ _, rfl⟩
    · exact ⟨rfl, rfl⟩
  | insert other =>
    have hother : worker ≠ other := fun heq => hs (heq ▸ rfl)
    rw [step, insert]
    split
    · refine ⟨Function.update_of_ne hother _ _, ?_⟩
      rw [Pool.interpreter?_insert, if_neg hother]
    · exact ⟨rfl, rfl⟩
  | refit factory => exact ⟨rfl, rfl⟩

theorem run_of_others {steps : List WorkStep} (hsteps : ∀ s ∈ steps, s.worker? ≠ some worker) :
    (x.run steps).stage worker = x.stage worker ∧
      (x.run steps).pool.interpreter? worker = x.pool.interpreter? worker := by
  induction steps generalizing x with
  | nil => exact ⟨rfl, rfl⟩
  | cons s rest ih =>
    obtain ⟨hs, hrest⟩ := List.forall_mem_cons.mp hsteps
    obtain ⟨hstage, hslot⟩ := step_of_other (x := x) hs
    obtain ⟨hstages, hslots⟩ := ih (x := x.step s) hrest
    exact ⟨hstages.trans hstage, hslots.trans hslot⟩

end Frame

/-- The workers that have an interpreter are those that got a context. -/
theorem Sound.size_eq {x : Workshop} (h : x.Sound) :
    x.pool.size = (x.granted.map Prod.fst).toFinset.card := by
  rw [Pool.size, ← List.length_map Prod.fst, ← List.toFinset_card_of_nodup h.slots]
  congr 1
  ext worker
  rw [List.mem_toFinset, List.mem_toFinset, Pool.mem_owners_iff]
  constructor
  · rintro ⟨interpreter, hthere⟩
    obtain ⟨context, hcontext⟩ := h.served worker interpreter hthere
    exact List.mem_map.mpr ⟨_, hcontext, rfl⟩
  · intro hmem
    obtain ⟨⟨owner, context⟩, hcontext, rfl⟩ := List.mem_map.mp hmem
    exact ⟨_, h.granted owner context hcontext⟩

/-- Any number of workers may ask a pool for contexts at once, and any attempt to make an interpreter may
fail. Whatever the order of their steps, all contexts of a worker are on the interpreter that it made at
first, and it never makes a second one. No two workers have the same. The pool has as many interpreters
as there are workers that got a context. An attempt that fails changes no slot, and the worker gets a
context at its next attempt that does not, whatever others have done in the meantime. -/
theorem workers_keep_interpreters (factory : Factory) (steps : List WorkStep) :
    let x := (start factory).run steps
    (∀ worker context, (worker, context) ∈ x.granted →
      x.first? worker = some context.interpreter) ∧
    (x.made.map Prod.fst).Nodup ∧
    (∀ worker other interpreter another, worker ≠ other → x.first? worker = some interpreter →
      x.first? other = some another → interpreter.serial ≠ another.serial) ∧
    x.pool.size = (x.granted.map Prod.fst).toFinset.card ∧
    ∀ worker defaults e, x.stage worker = .missed defaults → x.pool.create.1 = .error e →
      let y := x.step (.create worker)
      y.pool.slots = x.pool.slots ∧ y.granted = x.granted ∧
        y.stage = Function.update x.stage worker .idle ∧
        ∀ later, (∀ s ∈ later, s.worker? ≠ some worker) →
          let z := y.run later
          ∀ interpreter again, z.pool.create.1 = .ok interpreter →
            (z.run [.look worker again, .create worker, .insert worker]).granted =
              z.granted ++ [(worker, z.pool.context interpreter again)] := by
  intro x
  have hsound : x.Sound := (Sound.start factory).run steps
  refine ⟨?grants, hsound.makers, ?distinct, hsound.size_eq, ?failure⟩
  case grants =>
    intro worker context hcontext
    rw [hsound.first, hsound.granted worker context hcontext]
    rfl
  case distinct =>
    intro worker other interpreter another hne hworker hother hserial
    have hmade := mem_of_first? hworker
    have hanother := mem_of_first? hother
    have hsame := List.inj_on_of_nodup_map hsound.serials hmade hanother hserial
    exact hne (congrArg Prod.fst hsame)
  case failure =>
    intro worker defaults e hmissed herror y
    have hy : y = _ := create_of_error hmissed herror
    refine ⟨by rw [hy]; rfl, by rw [hy], by rw [hy], ?_⟩
    intro later hlater z interpreter again hok
    obtain ⟨hstage, hslot⟩ := run_of_others (x := y) hlater
    have hidle : z.stage worker = .idle := by
      rw [hstage, hy]
      exact Function.update_self _ _ _
    have hempty : z.pool.interpreter? worker = none := by
      rw [hslot, hy]
      exact hsound.empty worker (by simp [hmissed])
    have hacquire : (z.pool.acquire worker again).1 = .ok (z.pool.context interpreter again) := by
      have hcreate : z.pool.create = (.ok interpreter, z.pool.create.2) := Prod.ext hok rfl
      rw [Pool.acquire, hempty, hcreate]
      rfl
    obtain ⟨-, -, hgranted⟩ := run_acquire hidle again
    rw [hgranted, hacquire]
    rfl

-- The first attempt of worker 1 fails. At the next one, worker 2 overtakes it.
example :
    let failing : Factory :=
      { library := ⟨[⟨"m", "", ⟨[], [.throwValue (.literal .unit {}) {}]⟩⟩]⟩, rounds := 1 }
    let x := (start failing).run [.look 1 {}, .create 1, .refit { library := ⟨[]⟩, rounds := 1 },
      .look 1 {}, .look 2 {}, .create 1, .create 2, .insert 2, .insert 1, .look 1 {}]
    x.granted.map (fun g => (g.1, g.2.interpreter.serial)) = [(2, 2), (1, 1), (1, 1)] := by
  decide +kernel

end Workshop

end PlaceholderScripts
