import PlaceholderScripts.Definition

/-!
# The registry of scripts

Scripts by identifier. A script that was registered once is reached by its handle ever after, whether
or not the registry still has it under its identifier, so that whoever holds a handle goes on with the
same data and cached results as the registry.
-/

namespace PlaceholderScripts

/-- The number of a script in the order of registration. -/
abbrev Handle := Nat

/-- Every script ever registered, and the handles of those that still are. -/
structure Registry where
  scripts : List Definition := []
  handles : Dict Handle := Dict.empty
  inRange : ∀ e ∈ handles.entries, e.2 < scripts.length := by
    exact fun _ he => absurd he List.not_mem_nil

namespace Registry

def definition? (r : Registry) (handle : Handle) : Option Definition := r.scripts[handle]?

def get? (r : Registry) (identifier : String) : Option Definition :=
  (r.handles.get? identifier).bind r.definition?

/-- Changes a script wherever it is reached from. -/
def update (r : Registry) (handle : Handle) (d : Definition) : Registry :=
  { r with
    scripts := r.scripts.set handle d
    inRange := fun e he => by rw [List.length_set]; exact r.inRange e he }

/-- Adds a script under its identifier, and gives back the one it replaces. -/
def register (r : Registry) (d : Definition) : Option Definition × Registry :=
  (r.get? d.identifier,
    { scripts := r.scripts ++ [d]
      handles := r.handles.insert d.identifier r.scripts.length
      inRange := fun e he => by
        rw [List.length_append, List.length_singleton]
        rcases Entries.mem_insert he with rfl | he
        · exact Nat.lt_succ_self _
        · exact Nat.lt_succ_of_lt (r.inRange e he) })

/-- Removes an identifier, and gives back the script it stood for. -/
def unregister (r : Registry) (identifier : String) : Option Definition × Registry :=
  (r.get? identifier,
    { r with
      handles := r.handles.erase identifier
      inRange := fun e he => r.inRange e (Entries.mem_of_mem_erase he) })

def identifiers (r : Registry) : List String := r.handles.keys

def size (r : Registry) : Nat := r.handles.size

def clear (r : Registry) : Registry :=
  { r with
    handles := Dict.empty
    inRange := fun _ he => absurd he List.not_mem_nil }

theorem lt_length_of_handle {r : Registry} {identifier : String} {handle : Handle}
    (h : r.handles.get? identifier = some handle) : handle < r.scripts.length :=
  r.inRange _ (Dict.get?_eq_some_iff.mp h)

theorem get?_of_handle {r : Registry} {identifier : String} {handle : Handle}
    (h : r.handles.get? identifier = some handle) : r.get? identifier = r.definition? handle := by
  rw [get?, h, Option.bind_some]

theorem get?_eq_some_iff {r : Registry} {identifier : String} {d : Definition} :
    r.get? identifier = some d ↔
      ∃ handle, r.handles.get? identifier = some handle ∧ r.definition? handle = some d := by
  rw [get?, Option.bind_eq_some_iff]

theorem exists_get?_iff {r : Registry} {identifier : String} :
    (∃ d, r.get? identifier = some d) ↔ ∃ handle, r.handles.get? identifier = some handle := by
  constructor
  · rintro ⟨d, hd⟩
    obtain ⟨handle, hhandle, _⟩ := get?_eq_some_iff.mp hd
    exact ⟨handle, hhandle⟩
  · rintro ⟨handle, hhandle⟩
    have hlt := lt_length_of_handle hhandle
    exact ⟨r.scripts[handle], get?_eq_some_iff.mpr ⟨handle, hhandle, List.getElem?_eq_getElem hlt⟩⟩

theorem definition?_register {r : Registry} {d : Definition} {handle : Handle}
    (h : handle < r.scripts.length) : (r.register d).2.definition? handle = r.definition? handle :=
  List.getElem?_append_left h

theorem definition?_register_self (r : Registry) (d : Definition) :
    (r.register d).2.definition? r.scripts.length = some d :=
  List.getElem?_concat_length

theorem definition?_update_of_ne {r : Registry} {d : Definition} {handle other : Handle}
    (h : other ≠ handle) : (r.update handle d).definition? other = r.definition? other :=
  List.getElem?_set_ne h.symm

theorem definition?_update_self {r : Registry} {handle : Handle} {d : Definition}
    (h : r.definition? handle = some d) (e : Definition) :
    (r.update handle e).definition? handle = some e := by
  obtain ⟨hlt, -⟩ := List.getElem?_eq_some_iff.mp h
  exact List.getElem?_set_self hlt

theorem get?_update_self {r : Registry} {identifier : String} {handle : Handle} {d : Definition}
    (hhandle : r.handles.get? identifier = some handle) (hd : r.definition? handle = some d)
    (e : Definition) : (r.update handle e).get? identifier = some e := by
  have hhandle' : (r.update handle e).handles.get? identifier = some handle := hhandle
  rw [get?_of_handle hhandle', definition?_update_self hd]

theorem get?_update_of_ne {r : Registry} {identifier : String} {handle : Handle}
    (h : r.handles.get? identifier ≠ some handle) (e : Definition) :
    (r.update handle e).get? identifier = r.get? identifier := by
  rw [get?, get?]
  change (r.handles.get? identifier).bind _ = _
  cases hother : r.handles.get? identifier with
  | none => rfl
  | some other => exact definition?_update_of_ne fun heq => h (heq ▸ hother)

@[simp] theorem get?_clear (r : Registry) (identifier : String) : r.clear.get? identifier = none :=
  rfl

/-- The registered scripts in the order of their identifiers. -/
def registered (r : Registry) : List Definition :=
  r.handles.entries.filterMap fun e => r.definition? e.2

theorem mem_registered_iff {r : Registry} {d : Definition} :
    d ∈ r.registered ↔ ∃ identifier, r.get? identifier = some d := by
  rw [registered, List.mem_filterMap]
  constructor
  · rintro ⟨⟨identifier, handle⟩, hmem, hd⟩
    exact ⟨identifier, get?_eq_some_iff.mpr ⟨handle, Dict.get?_eq_some_iff.mpr hmem, hd⟩⟩
  · rintro ⟨identifier, hd⟩
    obtain ⟨handle, hhandle, hd⟩ := get?_eq_some_iff.mp hd
    exact ⟨(identifier, handle), Dict.get?_eq_some_iff.mp hhandle, hd⟩

/-- Saves stores one after the other, and counts the failures. -/
def saveStores : List Store → Program Nat
  | [] => return 0
  | store :: rest => do
    match ← store.save with
    | .ok () => saveStores rest
    | .error _ => return (← saveStores rest) + 1

def saveAll (r : Registry) : Program Nat := saveStores (r.registered.map Definition.data)

/-- Purges the caches behind the handles, each at a reading of the clock of its own, and counts the
dropped entries. -/
def purgeHandles (reading : Handle → Instant) : List Handle → Registry → Nat × Registry
  | [], r => (0, r)
  | handle :: rest, r =>
    match r.definition? handle with
    | none => purgeHandles reading rest r
    | some d =>
      let (dropped, cache) := d.cache.purgeExpired (reading handle)
      let (more, r) := purgeHandles reading rest (r.update handle { d with cache })
      (dropped + more, r)

/-- Drops the expired cache entries of every registered script, and counts them. The clock is read for
each script anew. -/
def purgeReading (r : Registry) (reading : Handle → Instant) : Nat × Registry :=
  purgeHandles reading (r.handles.entries.map Prod.snd) r

def purgeExpired (r : Registry) (now : Instant) : Nat × Registry := r.purgeReading fun _ => now

end Registry

end PlaceholderScripts
