import PlaceholderScripts.Loader
import PlaceholderScripts.Proofs.History

/-!
# What is registered

The registry maps each identifier to the script that was registered under it last, unless that was removed since.
A load registers the scripts that it can read one after the other, so it is a number of registrations, and a
reload is the removal of all scripts and a load. What holds after every single event holds after them, too.
-/

namespace PlaceholderScripts

namespace Loader

/-- Reads configured scripts, and leaves out those that cannot be read. -/
def readEntries (loader : Loader) : List (String × ScriptEntry) → Program (List Definition)
  | [] => return []
  | (identifier, entry) :: rest => do
    match ← loader.loadDefinition identifier entry with
    | some d => return d :: (← loader.readEntries rest)
    | none => loader.readEntries rest

/-- Reads the scripts that are configured, none if the configuration cannot be read. -/
def read (loader : Loader) : Program (List Definition) := do
  match ← Configuration.load loader.configPath with
  | .error _ => return []
  | .ok configuration => loader.readEntries configuration.entries

end Loader

namespace Registry

inductive Event where
  | registered (d : Definition)
  | removed (identifier : String)
  | cleared

namespace Event

def isRegistration : Event → Bool
  | .registered _ => true
  | _ => false

/-- What stands under the identifier stays there. -/
def Leaves (identifier : String) : Event → Prop
  | .registered d => d.identifier ≠ identifier
  | .removed other => other ≠ identifier
  | .cleared => False

end Event

def after (r : Registry) : Event → Registry
  | .registered d => (r.register d).2
  | .removed identifier => (r.unregister identifier).2
  | .cleared => r.clear

/-- The script was registered under the identifier, when so many had been registered before as its handle says,
and since then no other one was registered under the identifier, and it was not removed. -/
def Stands (identifier : String) (handle : Handle) (d : Definition) : List Event → Prop :=
  Since (fun before e => e = .registered d ∧ d.identifier = identifier ∧
    before.countP Event.isRegistration = handle) (Event.Leaves identifier)

structure Reflects (r : Registry) (history : List Event) : Prop where
  count : r.scripts.length = history.countP Event.isRegistration
  stands : ∀ identifier handle d,
    r.handles.get? identifier = some handle ∧ r.definition? handle = some d ↔ Stands identifier handle d history

theorem reflects_empty : Reflects {} [] where
  count := rfl
  stands := by simp [Stands]

namespace Reflects

variable {r : Registry} {history : List Event} (h : r.Reflects history)
include h

theorem registered (d : Definition) : (r.after (.registered d)).Reflects (history ++ [.registered d]) where
  count := by simp [after, register, h.count, Event.isRegistration]
  stands := by
    intro identifier handle other
    have hhandles : (r.after (.registered d)).handles = r.handles.insert d.identifier r.scripts.length := rfl
    rw [hhandles, Dict.get?_insert, Stands, since_concat, ← Stands, ← h.stands, ← h.count]
    by_cases hid : identifier = d.identifier
    · have hlast : (r.after (.registered d)).definition? r.scripts.length = some d := r.definition?_register_self d
      simp only [if_pos hid, Event.Leaves, Event.registered.injEq]
      constructor
      · rintro ⟨hhandle, hother⟩
        obtain rfl := Option.some.inj hhandle
        obtain rfl := Option.some.inj (hlast.symm.trans hother)
        exact .inl ⟨rfl, hid.symm, rfl⟩
      · rintro (⟨rfl, -, rfl⟩ | ⟨-, hne⟩)
        · exact ⟨rfl, hlast⟩
        · exact absurd hid.symm hne
    · have hkept : r.handles.get? identifier = some handle →
          (r.after (.registered d)).definition? handle = r.definition? handle :=
        fun hhandle => definition?_register (lt_length_of_handle hhandle)
      simp only [if_neg hid, Event.Leaves, Event.registered.injEq]
      constructor
      · rintro ⟨hhandle, hother⟩
        exact .inr ⟨⟨hhandle, (hkept hhandle).symm.trans hother⟩, Ne.symm hid⟩
      · rintro (⟨rfl, hname, -⟩ | ⟨⟨hhandle, hother⟩, -⟩)
        · exact absurd hname.symm hid
        · exact ⟨hhandle, (hkept hhandle).trans hother⟩

theorem removed (identifier : String) :
    (r.after (.removed identifier)).Reflects (history ++ [.removed identifier]) where
  count := by simp [after, unregister, h.count, Event.isRegistration]
  stands := by
    intro identifier' handle d
    have hhandles : (r.after (.removed identifier)).handles = r.handles.erase identifier := rfl
    have hkept : (r.after (.removed identifier)).definition? handle = r.definition? handle := rfl
    rw [hhandles, hkept, Dict.get?_erase, Stands, since_concat, ← Stands, ← h.stands]
    by_cases hid : identifier' = identifier
    · simp [hid, Event.Leaves]
    · simp [hid, Ne.symm hid, Event.Leaves]

theorem cleared : (r.after .cleared).Reflects (history ++ [.cleared]) where
  count := by simp [after, clear, h.count, Event.isRegistration]
  stands := by
    intro identifier handle d
    have hhandles : (r.after .cleared).handles = Dict.empty := rfl
    rw [hhandles, Stands, since_concat]
    simp [Event.Leaves]

theorem step (e : Event) : (r.after e).Reflects (history ++ [e]) := by
  cases e with
  | registered d => exact h.registered d
  | removed identifier => exact h.removed identifier
  | cleared => exact h.cleared

theorem run (events : List Event) : (events.foldl after r).Reflects (history ++ events) := by
  induction events generalizing r history with
  | nil => simpa using h
  | cons e rest ih => simpa using ih (h.step e)

theorem get?_iff {identifier : String} {d : Definition} :
    r.get? identifier = some d ↔ ∃ handle, Stands identifier handle d history := by
  rw [get?_eq_some_iff]
  exact exists_congr fun handle => h.stands identifier handle d

end Reflects

theorem Stands.identifier_eq {identifier : String} {handle : Handle} {d : Definition} {history : List Event}
    (h : Stands identifier handle d history) : d.identifier = identifier := by
  obtain ⟨_, _, _, _, ⟨-, hid, -⟩, -⟩ := h
  exact hid

section Loads

variable (loader : Loader)

/-- The entries of a configuration are read, and what could be read is registered. -/
theorem loadEntries_eq (entries : List (String × ScriptEntry)) (count : Nat) (r : Registry) :
    loader.loadEntries entries count r =
      (loader.readEntries entries).bind fun ds =>
        .done (count + ds.length, (ds.map Event.registered).foldl after r) := by
  induction entries generalizing count r with
  | nil => rfl
  | cons e rest ih =>
    obtain ⟨identifier, entry⟩ := e
    rw [Loader.loadEntries, Loader.readEntries]
    simp only [Dialogue.bind_eq, Dialogue.bind_assoc]
    congr 1
    funext found
    cases found with
    | none => exact ih count r
    | some d =>
      simp only [ih, Dialogue.bind_assoc, Dialogue.pure_eq_done, Dialogue.done_bind, List.length_cons, List.map_cons,
        List.foldl_cons]
      congr 1
      funext ds
      rw [Nat.add_assoc, Nat.add_comm 1]
      rfl

variable {σ : Type} (reply : σ → (q : Request) → q.Reply × σ)

theorem run_load_snd (r : Registry) (s : σ) :
    (Dialogue.run reply (loader.load r) s).1.2 =
      ((Dialogue.run reply loader.read s).1.map Event.registered).foldl after r := by
  rw [Loader.load, Loader.read]
  simp only [Dialogue.bind_eq, Dialogue.run_bind]
  cases (Dialogue.run reply (Configuration.load loader.configPath) s).1 with
  | error e => rfl
  | ok configuration =>
    simp only [loadEntries_eq, Dialogue.run_bind]
    rfl

end Loads

/-- What is done with a registry. Scripts are loaded in surroundings that may be others each time. -/
inductive Operation (σ : Type) where
  | register (d : Definition)
  | unregister (identifier : String)
  | clear
  | load (loader : Loader) (surroundings : σ)
  | reload (loader : Loader) (surroundings : σ)

section Operations

variable {σ : Type} (reply : σ → (q : Request) → q.Reply × σ)

def perform (r : Registry) : Operation σ → Registry
  | .register d => (r.register d).2
  | .unregister identifier => (r.unregister identifier).2
  | .clear => r.clear
  | .load loader s => (Dialogue.run reply (loader.load r) s).1.2
  | .reload loader s => (Dialogue.run reply (loader.reload r) s).1.2

/-- The single events of an operation. A reload reads the scripts in the surroundings in which the data of the old
ones have been saved. -/
def events (r : Registry) : Operation σ → List Event
  | .register d => [.registered d]
  | .unregister identifier => [.removed identifier]
  | .clear => [.cleared]
  | .load loader s => (Dialogue.run reply loader.read s).1.map Event.registered
  | .reload loader s =>
    .cleared :: (Dialogue.run reply loader.read (Dialogue.run reply r.saveAll s).2).1.map Event.registered

theorem perform_eq (r : Registry) (o : Operation σ) :
    r.perform reply o = (r.events reply o).foldl after r := by
  cases o with
  | load loader s => exact run_load_snd loader reply r s
  | reload loader s =>
    rw [perform, Loader.reload, Dialogue.bind_eq, Dialogue.run_bind, run_load_snd]
    rfl
  | _ => rfl

def proceed (c : Registry × List Event) (o : Operation σ) : Registry × List Event :=
  (c.1.perform reply o, c.2 ++ c.1.events reply o)

def course (r : Registry) (operations : List (Operation σ)) : Registry × List Event :=
  operations.foldl (proceed reply) (r, [])

theorem Reflects.proceed {c : Registry × List Event} (h : c.1.Reflects c.2) (o : Operation σ) :
    (proceed reply c o).1.Reflects (proceed reply c o).2 := by
  rw [Registry.proceed, perform_eq]
  exact h.run _

theorem reflects_course (operations : List (Operation σ)) :
    (course reply {} operations).1.Reflects (course reply {} operations).2 := by
  have hrun (c : Registry × List Event) (h : c.1.Reflects c.2) :
      (operations.foldl (proceed reply) c).1.Reflects (operations.foldl (proceed reply) c).2 := by
    induction operations generalizing c with
    | nil => exact h
    | cons o rest ih => exact ih _ (h.proceed reply o)
  exact hrun _ reflects_empty

/-- After any operations on an empty registry each identifier has the script that was registered under it last, if
that was not removed since, and every script is under its own identifier. Registering gives back exactly the script
that stood under the identifier before, and removing the one that is removed. The identifiers are listed once each in
ascending order, and they are those with a script. -/
theorem registry_is_keyed_map (operations : List (Operation σ)) :
    let r := (course reply {} operations).1
    let history := (course reply {} operations).2
    (∀ identifier d, r.get? identifier = some d → d.identifier = identifier) ∧
    (∀ identifier handle d, r.handles.get? identifier = some handle ∧ r.definition? handle = some d ↔
      Stands identifier handle d history) ∧
    (∀ identifier d, r.get? identifier = some d ↔ ∃ handle, Stands identifier handle d history) ∧
    (∀ d replaced, (r.register d).1 = some replaced ↔ ∃ handle, Stands d.identifier handle replaced history) ∧
    (∀ identifier removed, (r.unregister identifier).1 = some removed ↔
      ∃ handle, Stands identifier handle removed history) ∧
    r.identifiers.Pairwise (· < ·) ∧
    (∀ identifier, identifier ∈ r.identifiers ↔ ∃ d, r.get? identifier = some d) ∧
    r.size = r.identifiers.length := by
  intro r history
  have h : r.Reflects history := reflects_course reply operations
  refine ⟨?own, h.stands, fun _ _ => h.get?_iff, fun _ _ => h.get?_iff, fun _ _ => h.get?_iff, ?ascending, ?listed,
    (Dict.length_keys _).symm⟩
  case own =>
    intro identifier d hd
    obtain ⟨handle, hstands⟩ := h.get?_iff.mp hd
    exact hstands.identifier_eq
  case ascending => exact List.pairwise_map.mpr r.handles.ascending
  case listed => exact fun identifier => Dict.mem_keys_iff.trans exists_get?_iff.symm

end Operations

end Registry

end PlaceholderScripts
