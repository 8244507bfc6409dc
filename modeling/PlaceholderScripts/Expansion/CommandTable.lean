import PlaceholderScripts.Dict

/-!
# Named commands

A table of commands gives every name to the handler that asked for it first. A registrar asks for
several names for one handler, remembers those that it got, and gives back no others.
-/

namespace PlaceholderScripts

variable {Handler : Type}

structure CommandTable (Handler : Type) where
  handlers : Dict Handler := Dict.empty

namespace CommandTable

/-- Puts a handler under a name, unless the name is taken. -/
def register (table : CommandTable Handler) (name : String) (handler : Handler) :
    Bool × CommandTable Handler :=
  if table.handlers.contains name then (false, table)
  else (true, ⟨table.handlers.insert name handler⟩)

def unregister (table : CommandTable Handler) (name : String) : Bool × CommandTable Handler :=
  if table.handlers.contains name then (true, ⟨table.handlers.erase name⟩) else (false, table)

def names (table : CommandTable Handler) : List String := table.handlers.keys

def contains (table : CommandTable Handler) (name : String) : Bool := table.handlers.contains name

def handler? (table : CommandTable Handler) (name : String) : Option Handler := table.handlers.get? name

theorem mem_names_iff {table : CommandTable Handler} {name : String} :
    name ∈ table.names ↔ ∃ handler, table.handler? name = some handler :=
  Dict.mem_keys_iff

theorem not_mem_names_iff {table : CommandTable Handler} {name : String} :
    name ∉ table.names ↔ table.handler? name = none := by
  rw [mem_names_iff, ← Option.ne_none_iff_exists', Decidable.not_not]

theorem handler?_insert (table : CommandTable Handler) (name other : String) (handler : Handler) :
    (⟨table.handlers.insert name handler⟩ : CommandTable Handler).handler? other =
      if other = name then some handler else table.handler? other :=
  Dict.get?_insert table.handlers name other handler

theorem register_of_free {table : CommandTable Handler} {name : String}
    (h : table.handler? name = none) (handler : Handler) :
    table.register name handler = (true, ⟨table.handlers.insert name handler⟩) := by
  have hfree : table.handlers.contains name = false := by
    rw [Dict.contains, Option.isSome_eq_false_iff, Option.isNone_iff_eq_none]
    exact h
  simp [register, hfree]

theorem register_of_taken {table : CommandTable Handler} {name : String}
    (h : table.handler? name ≠ none) (handler : Handler) :
    table.register name handler = (false, table) := by
  have htaken : table.handlers.contains name = true := Option.isSome_iff_ne_none.mpr h
  simp [register, htaken]

/-- A name goes to the handler that is registered for it unless it went to another one before. -/
theorem handler?_register (table : CommandTable Handler) (name other : String) (handler : Handler) :
    (table.register name handler).2.handler? other =
      if other = name ∧ table.handler? other = none then some handler else table.handler? other := by
  by_cases h : table.handler? name = none
  · rw [register_of_free h, handler?_insert]
    by_cases hother : other = name
    · subst hother
      simp [h]
    · simp [hother]
  · rw [register_of_taken h, if_neg]
    rintro ⟨rfl, hnone⟩
    exact h hnone

theorem unregister_of_taken {table : CommandTable Handler} {name : String}
    (h : table.handler? name ≠ none) :
    table.unregister name = (true, ⟨table.handlers.erase name⟩) := by
  have htaken : table.handlers.contains name = true := Option.isSome_iff_ne_none.mpr h
  simp [unregister, htaken]

theorem unregister_of_free {table : CommandTable Handler} {name : String}
    (h : table.handler? name = none) : table.unregister name = (false, table) := by
  have hfree : table.handlers.contains name = false := by
    rw [Dict.contains, Option.isSome_eq_false_iff, Option.isNone_iff_eq_none]
    exact h
  simp [unregister, hfree]

theorem handler?_unregister (table : CommandTable Handler) (name other : String) :
    (table.unregister name).2.handler? other =
      if other = name then none else table.handler? other := by
  by_cases h : table.handler? name = none
  · rw [unregister_of_free h]
    split
    · next hother => rw [hother, h]
    · rfl
  · rw [unregister_of_taken h]
    exact Dict.get?_erase table.handlers name other

end CommandTable

/-- The names that a registrar got. -/
structure Registrar where
  owned : Dict Unit := Dict.empty

namespace Registrar

/-- Asks for names one after the other, and counts those that were free. -/
def claim (handler : Handler) : List String → Registrar → CommandTable Handler →
    Nat × Registrar × CommandTable Handler
  | [], r, table => (0, r, table)
  | name :: rest, r, table =>
    match table.register name handler with
    | (true, table) =>
      let (n, r, table) := claim handler rest ⟨r.owned.insert name ()⟩ table
      (n + 1, r, table)
    | (false, table) => claim handler rest r table

/-- Removes names one after the other, and counts those that were there. -/
def release : List String → CommandTable Handler → Nat × CommandTable Handler
  | [], table => (0, table)
  | name :: rest, table =>
    match table.unregister name with
    | (true, table) =>
      let (n, table) := release rest table
      (n + 1, table)
    | (false, table) => release rest table

/-- Asks for names, and counts those that the registrar gets. -/
def register (r : Registrar) (names : List String) (handler : Handler) (table : CommandTable Handler) :
    Nat × Registrar × CommandTable Handler :=
  claim handler names r table

/-- Gives back the names that the registrar got, and counts those that were still there. -/
def unregister (r : Registrar) (table : CommandTable Handler) : Nat × Registrar × CommandTable Handler :=
  let (n, table) := release r.owned.keys table
  (n, {}, table)

end Registrar

end PlaceholderScripts
