import PlaceholderScripts.Expansion.Router
import PlaceholderScripts.Proofs.Files.Writing

/-!
# What an evaluation touches

A script reaches its own data, the substitution service and nothing else: no evaluation asks to read a
file, and the only file that it asks to write is the one its definition's data belongs to. This holds for
every script, since it holds for each question that a script can ask its host. Of the definition itself an
evaluation changes the values and the cached results, also when it fails.
-/

namespace PlaceholderScripts

/-- Requests that touch no file, or write the one of the given path. -/
def Request.IsConfinedTo (path : Option Path) : Request → Prop
  | .now => True
  | .substitute _ _ _ => True
  | .readText _ => False
  | .writeText p _ => path = some p
  | .createParents p => path = some p

/-- What can become of a definition by evaluating it. -/
def Definition.Evolves (d d' : Definition) : Prop :=
  ∃ values cache, d' = { d with data := { d.data with values }, cache }

namespace Definition.Evolves

variable {d d' d'' : Definition}

theorem refl (d : Definition) : d.Evolves d := ⟨d.data.values, d.cache, rfl⟩

theorem trans (h : d.Evolves d') (h' : d'.Evolves d'') : d.Evolves d'' := by
  obtain ⟨values, cache, rfl⟩ := h
  obtain ⟨values', cache', rfl⟩ := h'
  exact ⟨values', cache', rfl⟩

theorem path (h : d.Evolves d') : d'.data.path = d.data.path := by
  obtain ⟨values, cache, rfl⟩ := h
  rfl

theorem withCache (h : d.Evolves d') (cache : ResultCache) : d.Evolves { d' with cache } := by
  obtain ⟨values, _, rfl⟩ := h
  exact ⟨values, cache, rfl⟩

end Definition.Evolves

def Store.Evolves (store store' : Store) : Prop := ∃ values, store' = { store with values }

theorem Store.Evolves.withData {d d' : Definition} {data : Store} (h : d.Evolves d')
    (hdata : Store.Evolves d'.data data) : d.Evolves { d' with data } := by
  obtain ⟨values, cache, rfl⟩ := h
  obtain ⟨values', rfl⟩ := hdata
  exact ⟨values', cache, rfl⟩

theorem Store.save_obeys (store : Store) :
    store.save.Obeys (Request.IsConfinedTo store.path) fun _ => True := by
  unfold Store.save
  cases hpath : store.path with
  | none => exact trivial
  | some path =>
    refine ⟨rfl, fun made => ?_⟩
    cases made with
    | error e => exact trivial
    | ok _ =>
      refine ⟨rfl, fun written => ?_⟩
      cases written <;> exact trivial

theorem Dialogue.mapM_obeys {Ask ε α β : Type} {Reply : Ask → Type} {P : Ask → Prop}
    {f : α → ExceptT ε (Dialogue Ask Reply) β} (hf : ∀ a, Dialogue.Obeys P (fun _ => True) (f a).run)
    (l : List α) : Dialogue.Obeys P (fun _ => True) (l.mapM f).run := by
  induction l with
  | nil => exact trivial
  | cons a rest ih =>
    rw [List.mapM_cons, ExceptT.run_bind]
    refine (hf a).bind fun first _ => ?_
    cases first with
    | error e => exact trivial
    | ok b =>
      change Dialogue.Obeys P _ (rest.mapM f >>= fun bs => pure (b :: bs)).run
      rw [ExceptT.run_bind]
      refine ih.bind fun others _ => ?_
      cases others <;> exact trivial

namespace Evaluator

variable {path : Option Path}

/-- Whatever a script asks, its store keeps its name and its file, and no other file is written. -/
theorem reply_obeys (store store' : Store) (call : Script.HostCall) (h : store.Evolves store') :
    (reply store' call).Obeys (Request.IsConfinedTo store.path) fun r => store.Evolves r.2 := by
  obtain ⟨values, rfl⟩ := h
  cases call with
  | get key => exact ⟨values, rfl⟩
  | set key value => exact ⟨_, rfl⟩
  | remove key => exact ⟨_, rfl⟩
  | clear => exact ⟨_, rfl⟩
  | keys => exact ⟨values, rfl⟩
  | save =>
    have hsave := Store.save_obeys { store with values }
    exact hsave.bind fun _ _ => ⟨values, rfl⟩
  | substitute form identity text => exact ⟨trivial, fun _ => ⟨values, rfl⟩⟩

section Substitutions

variable {P : Request → Prop} (hP : ∀ form identity text, P (.substitute form identity text))
include hP

theorem substituteAll_obeys (identity : Identity) (args : List String) :
    (substituteAll identity args).Obeys P fun _ => True := by
  induction args with
  | nil => exact trivial
  | cons arg rest ih =>
    unfold substituteAll
    split
    · refine ih.bind fun others _ => ?_
      cases others <;> exact trivial
    · refine ⟨hP _ _ _, fun reply => ?_⟩
      cases reply with
      | error e => exact trivial
      | ok first =>
        refine ih.bind fun others _ => ?_
        cases others <;> exact trivial

theorem scan_obeys (identity : Identity) (template : String) :
    (scan identity template).Obeys P fun _ => True := by
  have hsegment : ∀ segment, Dialogue.Obeys P (fun _ => True)
      (Template.substituteSegment (fun token => ExceptT.mk (Program.substitute .percent identity token))
        segment).run := by
    intro segment
    cases segment with
    | text cs => exact trivial
    | comment cs => exact trivial
    | placeholder cs =>
      refine ⟨hP _ _ _, fun reply => ?_⟩
      cases reply <;> exact trivial
  unfold scan Template.scan
  rw [ExceptT.run_bind]
  refine (Dialogue.mapM_obeys hsegment (Template.segments template)).bind fun pieces _ => ?_
  cases pieces <;> exact trivial

theorem resultText_obeys (identity : Identity) (v : Script.Value) :
    (resultText identity v).Obeys P fun _ => True := by
  unfold resultText
  split
  · exact trivial
  · exact ⟨hP _ _ _, fun _ => trivial⟩

end Substitutions

variable (evaluator : Evaluator) (worker : Worker) (identity : Identity) (args : List String)

theorem execute_obeys (d : Definition) (script : String) :
    (evaluator.execute worker d identity args script).Obeys (Request.IsConfinedTo d.data.path)
      fun r => d.Evolves r.2.1 := by
  unfold execute
  split
  · exact .refl d
  · have hstore : d.data.Evolves d.data := ⟨d.data.values, rfl⟩
    refine (Dialogue.obeys_relay (fun store call => reply_obeys d.data store call) _ hstore).bind ?_
    rintro ⟨result, data⟩ hdata
    have hd : d.Evolves { d with data } := Store.Evolves.withData (.refl d) hdata
    cases result with
    | error e => exact hd
    | ok v =>
      refine (resultText_obeys (fun _ _ _ => trivial) identity v).bind fun text _ => ?_
      cases text <;> exact hd

theorem compute_obeys (d : Definition) :
    (evaluator.compute worker d identity args).Obeys (Request.IsConfinedTo d.data.path)
      fun r => d.Evolves r.2.1 := by
  refine (scan_obeys (fun _ _ _ => trivial) identity d.template).bind fun scanned _ => ?_
  cases scanned with
  | error e => exact .refl d
  | ok script =>
    refine (substituteAll_obeys (fun _ _ _ => trivial) identity args).bind fun substituted _ => ?_
    cases substituted with
    | error e => exact .refl d
    | ok args => exact execute_obeys evaluator worker identity args d script

theorem consult_obeys (d : Definition) (keys : Option (RequesterKey × String)) :
    (consult d keys).Obeys (Request.IsConfinedTo path) fun r => d.Evolves r.2 := by
  cases keys with
  | none => exact .refl d
  | some keys => exact ⟨trivial, fun now => (Definition.Evolves.refl d).withCache _⟩

theorem keep_obeys {d d' : Definition} (h : d.Evolves d') (text : String)
    (keys : Option (RequesterKey × String)) :
    (keep d' text keys).Obeys (Request.IsConfinedTo path) d.Evolves := by
  cases keys with
  | none => exact h
  | some keys => exact ⟨trivial, fun now => h.withCache _⟩

theorem perform_obeys {d d' : Definition} (h : d.Evolves d')
    (keys : Option (RequesterKey × String)) :
    (evaluator.perform worker d' identity args keys).Obeys (Request.IsConfinedTo d.data.path)
      fun r => d.Evolves r.2.1 := by
  rw [← h.path]
  refine (compute_obeys evaluator worker identity args d').bind ?_
  rintro ⟨result, d'', evaluator'⟩ hd
  cases result with
  | error e => exact h.trans hd
  | ok text => exact (keep_obeys (h.trans hd) text keys).bind fun _ hkept => hkept

/-- Of a definition, an evaluation changes nothing but the values and the cached results. All that it asks
for is the time, substitutions, and the writing of the definition's own file. -/
theorem tryEvaluate_obeys (d : Definition) :
    (evaluator.tryEvaluate worker d identity args).Obeys (Request.IsConfinedTo d.data.path)
      fun r => d.Evolves r.2.1 := by
  refine (consult_obeys d _).bind ?_
  rintro ⟨hit, d'⟩ hd
  cases hit with
  | some text => exact hd
  | none => exact perform_obeys evaluator worker identity args hd _

end Evaluator

structure World.ChangesOnly (path : Path) (world world' : World) : Prop where
  files : world.files.ChangesOnly path world'.files
  clock : world'.clock = world.clock
  service : world'.service = world.service

namespace World

/-- What a confined request leaves of the world. -/
def Confined (path : Option Path) (world world' : World) : Prop :=
  match path with
  | none => world' = world
  | some p => world.ChangesOnly p world'

theorem confined_refl (path : Option Path) (world : World) : Confined path world world := by
  cases path with
  | none => rfl
  | some p => exact ⟨.refl p _, rfl, rfl⟩

theorem confined_trans {path : Option Path} (a b c : World) (h : Confined path a b)
    (h' : Confined path b c) : Confined path a c := by
  cases path with
  | none => exact Eq.trans h' h
  | some p =>
    exact ⟨h.files.trans h'.files, h'.clock.trans h.clock, h'.service.trans h.service⟩

theorem confined_reply {path : Option Path} (world : World) (q : Request)
    (h : q.IsConfinedTo path) : Confined path world (world.reply q).2 := by
  cases q with
  | now => exact confined_refl path world
  | substitute form identity text => exact confined_refl path world
  | readText p => exact absurd h not_false
  | writeText p text =>
    obtain rfl : path = some p := h
    simp only [reply]
    cases hwrite : world.files.writeText p text with
    | error e => exact confined_refl (some p) world
    | ok files => exact ⟨FileSystem.changesOnly_writeText hwrite, rfl, rfl⟩
  | createParents p =>
    obtain rfl : path = some p := h
    simp only [reply]
    cases hnames : Path.parentNames? p with
    | none => exact confined_refl (some p) world
    | some names => exact ⟨FileSystem.changesOnly_createDirectories hnames, rfl, rfl⟩

theorem confined_run {path : Option Path} {α : Type} {program : Program α} {Q : α → Prop}
    (h : program.Obeys (Request.IsConfinedTo path) Q) (world : World) :
    Confined path world (world.run program).2 :=
  h.run (confined_refl path) confined_trans confined_reply world

end World

namespace Expansion

variable (x : Expansion) (worker : Worker) (handle : Handle) (d : Definition) (identity : Identity)
  (args : List String)

/-- The answer, the definition and the evaluator after an evaluation, and the world then. -/
def evaluated (world : World) : (Except EvaluationError String × Definition × Evaluator) × World :=
  world.run (x.evaluator.tryEvaluate worker d identity args)

theorem run_evaluateHandle (world : World) :
    world.run (x.evaluateHandle worker handle d identity args) =
      let ((result, d', evaluator), world') := x.evaluated worker d identity args world
      ((result, { x with evaluator, registry := x.registry.update handle d' }), world') := by
  rw [World.run, evaluateHandle, Dialogue.bind_eq, Dialogue.run_bind]
  rfl

theorem run_evaluate (world : World) :
    world.run (x.evaluator.evaluate worker d identity args) =
      let ((result, d', evaluator), world') := x.evaluated worker d identity args world
      ((Evaluator.answer result, d', evaluator), world') := by
  rw [World.run, Evaluator.evaluate, Dialogue.bind_eq, Dialogue.run_bind]
  rfl

/-- An evaluation touches only its own script, however it ends: the other scripts, the identifiers, the
loader and all files but the one of its own data are as they were. -/
theorem evaluation_touches_own_script (world : World) :
    ∃ result d' evaluator world',
      world.run (x.evaluator.evaluate worker d identity args) =
        ((Evaluator.answer result, d', evaluator), world') ∧
      world.run (x.evaluateHandle worker handle d identity args) =
        ((result, { x with evaluator, registry := x.registry.update handle d' }), world') ∧
      d.Evolves d' ∧
      (x.registry.update handle d').handles = x.registry.handles ∧
      (∀ other, other ≠ handle →
        (x.registry.update handle d').definition? other = x.registry.definition? other) ∧
      world.Confined d.data.path world' := by
  have hobeys := Evaluator.tryEvaluate_obeys x.evaluator worker identity args d
  have hevolves : d.Evolves (x.evaluated worker d identity args world).1.2.1 :=
    hobeys.ensures.run World.reply world
  have hconfined : world.Confined d.data.path (x.evaluated worker d identity args world).2 :=
    World.confined_run hobeys world
  refine ⟨(x.evaluated worker d identity args world).1.1, _, _, _,
    run_evaluate x worker d identity args world,
    run_evaluateHandle x worker handle d identity args world, hevolves, rfl, ?_, hconfined⟩
  intro other hother
  exact Registry.definition?_update_of_ne hother

end Expansion

end PlaceholderScripts
