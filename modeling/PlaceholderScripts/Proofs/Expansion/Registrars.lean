import Mathlib.Logic.Function.Basic
import PlaceholderScripts.Expansion.CommandTable

/-!
# Registrars that share a table of commands

Any number of registrars ask for names in one table, each for a handler of its own, and give them back. The
table may hold foreign commands from the beginning. As long as only the registrars change it, every
name is foreign, or belongs to exactly one registrar, or is free, and goes to the handler that it should.
-/

namespace PlaceholderScripts

variable {Handler : Type}

structure Router (Handler : Type) where
  names : List String
  handler : Handler

namespace Registrar

/-- The registrar got the name and has not given it back. -/
def Owns (r : Registrar) (name : String) : Prop := name ∈ r.owned.keys

theorem owns_iff {r : Registrar} {name : String} : r.Owns name ↔ r.owned.get? name = some () := by
  rw [Owns, Dict.mem_keys_iff]
  exact ⟨fun ⟨(), h⟩ => h, fun h => ⟨(), h⟩⟩

@[simp] theorem not_owns_new (name : String) : ¬ ({} : Registrar).Owns name := List.not_mem_nil

theorem owns_insert {r : Registrar} {name other : String} :
    (⟨r.owned.insert name ()⟩ : Registrar).Owns other ↔ r.Owns other ∨ other = name := by
  rw [owns_iff, owns_iff, Dict.get?_insert]
  by_cases hother : other = name <;> simp [hother]

section Claim

variable (handler : Handler) {name : String} (rest : List String) (r : Registrar)
  {table : CommandTable Handler}

theorem claim_of_free (h : table.handler? name = none) :
    claim handler (name :: rest) r table =
      ((claim handler rest ⟨r.owned.insert name ()⟩ ⟨table.handlers.insert name handler⟩).1 + 1,
        (claim handler rest ⟨r.owned.insert name ()⟩ ⟨table.handlers.insert name handler⟩).2) := by
  rw [claim, CommandTable.register_of_free h]

theorem claim_of_taken (h : table.handler? name ≠ none) :
    claim handler (name :: rest) r table = claim handler rest r table := by
  rw [claim, CommandTable.register_of_taken h]

end Claim

/-- The names that were free go to the handler, and all others go where they went. -/
theorem handler?_claim (handler : Handler) (names : List String) (r : Registrar)
    (table : CommandTable Handler) (name : String) :
    (claim handler names r table).2.2.handler? name =
      if name ∈ names ∧ table.handler? name = none then some handler else table.handler? name := by
  induction names generalizing r table with
  | nil => simp [claim]
  | cons first rest ih =>
    by_cases h : table.handler? first = none
    · rw [claim_of_free handler rest r h, ih, CommandTable.handler?_insert]
      by_cases hname : name = first
      · subst hname
        simp [h]
      · simp [hname]
    · rw [claim_of_taken handler rest r h, ih]
      by_cases hname : name = first
      · subst hname
        simp [h]
      · simp [hname]

theorem owns_claim (handler : Handler) (names : List String) (r : Registrar)
    (table : CommandTable Handler) (name : String) :
    (claim handler names r table).2.1.Owns name ↔
      r.Owns name ∨ name ∈ names ∧ table.handler? name = none := by
  induction names generalizing r table with
  | nil => simp [claim]
  | cons first rest ih =>
    by_cases h : table.handler? first = none
    · rw [claim_of_free handler rest r h, ih, CommandTable.handler?_insert, owns_insert]
      by_cases hname : name = first
      · subst hname
        simp [h]
      · simp [hname]
    · rw [claim_of_taken handler rest r h, ih]
      by_cases hname : name = first
      · subst hname
        simp [h]
      · simp [hname]

/-- What is counted is what the registrar gets, if no name that it had was free. -/
theorem size_claim (handler : Handler) (names : List String) {r : Registrar}
    {table : CommandTable Handler} (htaken : ∀ name, r.Owns name → table.handler? name ≠ none) :
    (claim handler names r table).2.1.owned.size =
      r.owned.size + (claim handler names r table).1 := by
  induction names generalizing r table with
  | nil => rfl
  | cons first rest ih =>
    by_cases h : table.handler? first = none
    · have hnew : r.owned.get? first = none := by
        rw [Option.eq_none_iff_forall_not_mem]
        rintro ⟨⟩ howned
        exact htaken first (owns_iff.mpr howned) h
      have hstill : ∀ name, (⟨r.owned.insert first ()⟩ : Registrar).Owns name →
          (⟨table.handlers.insert first handler⟩ : CommandTable Handler).handler? name ≠ none := by
        intro name howns
        rw [CommandTable.handler?_insert]
        split
        · exact Option.some_ne_none handler
        · next hname => exact htaken name ((owns_insert.mp howns).resolve_right hname)
      have hsize : (r.owned.insert first ()).size = r.owned.size + 1 := Dict.size_insert hnew ()
      rw [claim_of_free handler rest r h, ih hstill, hsize]
      omega
    · rw [claim_of_taken handler rest r h]
      exact ih htaken

theorem claim_fst_eq_zero (handler : Handler) {names : List String} (r : Registrar)
    {table : CommandTable Handler} (htaken : ∀ name ∈ names, table.handler? name ≠ none) :
    (claim handler names r table).1 = 0 := by
  induction names with
  | nil => rfl
  | cons first rest ih =>
    rw [claim_of_taken handler rest r (htaken first List.mem_cons_self)]
    exact ih fun name hname => htaken name (List.mem_cons_of_mem _ hname)

theorem handler?_release (names : List String) (table : CommandTable Handler) (name : String) :
    (release names table).2.handler? name =
      if name ∈ names then none else table.handler? name := by
  induction names generalizing table with
  | nil => simp [release]
  | cons first rest ih =>
    have hfirst := CommandTable.handler?_unregister table first name
    have hrelease : (release (first :: rest) table).2 = (release rest (table.unregister first).2).2 := by
      rw [release]
      split <;> next h => rw [h]
    rw [hrelease, ih, hfirst]
    by_cases hname : name = first <;> simp [hname]

/-- All names are counted if all of them are taken and none occurs twice. -/
theorem release_fst {names : List String} {table : CommandTable Handler} (hnodup : names.Nodup)
    (htaken : ∀ name ∈ names, table.handler? name ≠ none) :
    (release names table).1 = names.length := by
  induction names generalizing table with
  | nil => rfl
  | cons first rest ih =>
    obtain ⟨hfirst, hrest⟩ := List.nodup_cons.mp hnodup
    have hstill : ∀ name ∈ rest,
        (⟨table.handlers.erase first⟩ : CommandTable Handler).handler? name ≠ none := by
      intro name hname
      have hother : name ≠ first := fun heq => hfirst (heq ▸ hname)
      rw [CommandTable.handler?, Dict.get?_erase, if_neg hother]
      exact htaken name (List.mem_cons_of_mem _ hname)
    rw [release, CommandTable.unregister_of_taken (htaken first List.mem_cons_self)]
    simp [ih hrest hstill]

end Registrar

structure Switchboard (Handler : Type) where
  table : CommandTable Handler
  registrars : Nat → Registrar := fun _ => {}

inductive RegistrarCall where
  | register (i : Nat)
  | unregister (i : Nat)
  deriving DecidableEq, Repr

namespace Switchboard

def Owns (x : Switchboard Handler) (i : Nat) (name : String) : Prop := (x.registrars i).Owns name

def start (foreign : CommandTable Handler) : Switchboard Handler := { table := foreign }

section Call

variable (routers : Nat → Router Handler)

/-- The answer to a call, and the switchboard after it. -/
def call (x : Switchboard Handler) : RegistrarCall → Nat × Switchboard Handler
  | .register i =>
    let claimed := (x.registrars i).register (routers i).names (routers i).handler x.table
    (claimed.1, ⟨claimed.2.2, Function.update x.registrars i claimed.2.1⟩)
  | .unregister i =>
    let released := (x.registrars i).unregister x.table
    (released.1, ⟨released.2.2, Function.update x.registrars i released.2.1⟩)

def calls (x : Switchboard Handler) (cs : List RegistrarCall) : Switchboard Handler :=
  cs.foldl (fun x c => (x.call routers c).2) x

variable (x : Switchboard Handler) (i j : Nat) (name : String)

theorem handler?_register :
    (x.call routers (.register i)).2.table.handler? name =
      if name ∈ (routers i).names ∧ x.table.handler? name = none then some (routers i).handler
      else x.table.handler? name :=
  Registrar.handler?_claim _ _ _ _ name

theorem handler?_unregister [Decidable (x.Owns i name)] :
    (x.call routers (.unregister i)).2.table.handler? name =
      if x.Owns i name then none else x.table.handler? name := by
  refine (Registrar.handler?_release _ _ name).trans ?_
  congr

theorem registrars_register_self :
    (x.call routers (.register i)).2.registrars i =
      (Registrar.claim (routers i).handler (routers i).names (x.registrars i) x.table).2.1 :=
  Function.update_self _ _ _

theorem registrars_register_of_ne (h : j ≠ i) :
    (x.call routers (.register i)).2.registrars j = x.registrars j :=
  Function.update_of_ne h _ _

theorem registrars_unregister_of_ne (h : j ≠ i) :
    (x.call routers (.unregister i)).2.registrars j = x.registrars j :=
  Function.update_of_ne h _ _

theorem registrars_unregister_self : (x.call routers (.unregister i)).2.registrars i = {} :=
  Function.update_self _ _ _

theorem owns_register :
    (x.call routers (.register i)).2.Owns j name ↔
      x.Owns j name ∨ j = i ∧ name ∈ (routers i).names ∧ x.table.handler? name = none := by
  by_cases h : j = i
  · subst h
    rw [Owns, registrars_register_self, Registrar.owns_claim]
    simp [Owns]
  · rw [Owns, registrars_register_of_ne routers x i j h]
    simp [Owns, h]

theorem owns_unregister :
    (x.call routers (.unregister i)).2.Owns j name ↔ j ≠ i ∧ x.Owns j name := by
  by_cases h : j = i
  · subst h
    simp [Owns, registrars_unregister_self]
  · rw [Owns, registrars_unregister_of_ne routers x i j h]
    simp [Owns, h]

end Call

structure Shared (routers : Nat → Router Handler) (foreign : CommandTable Handler)
    (x : Switchboard Handler) : Prop where
  disjoint : ∀ i j name, i ≠ j → x.Owns i name → ¬ x.Owns j name
  own : ∀ i name, x.Owns i name → x.table.handler? name = some (routers i).handler
  notForeign : ∀ i name, x.Owns i name → foreign.handler? name = none
  others : ∀ name, (∀ i, ¬ x.Owns i name) → x.table.handler? name = foreign.handler? name

namespace Shared

variable {routers : Nat → Router Handler} {foreign : CommandTable Handler} {x : Switchboard Handler}

theorem start (routers : Nat → Router Handler) (foreign : CommandTable Handler) :
    Shared routers foreign (start foreign) where
  disjoint := fun _ _ _ _ h => absurd h (Registrar.not_owns_new _)
  own := fun _ _ h => absurd h (Registrar.not_owns_new _)
  notForeign := fun _ _ h => absurd h (Registrar.not_owns_new _)
  others := fun _ _ => rfl

/-- A name that is free belongs to nobody, and is not foreign either. -/
theorem of_free (h : Shared routers foreign x) {name : String} (hfree : x.table.handler? name = none) :
    (∀ i, ¬ x.Owns i name) ∧ foreign.handler? name = none := by
  have hnobody : ∀ i, ¬ x.Owns i name := by
    intro i howns
    rw [h.own i name howns] at hfree
    exact Option.some_ne_none _ hfree
  exact ⟨hnobody, (h.others name hnobody).symm.trans hfree⟩

theorem register (h : Shared routers foreign x) (i : Nat) :
    Shared routers foreign (x.call routers (.register i)).2 := by
  refine ⟨?disjoint, ?own, ?notForeign, ?others⟩
  case disjoint =>
    intro j k name hjk hj hk
    rw [owns_register] at hj hk
    -- a name that is claimed now was free, so it was nobody else's
    rcases hj with hj | ⟨rfl, -, hfree⟩
    · rcases hk with hk | ⟨-, -, hfree⟩
      · exact h.disjoint j k name hjk hj hk
      · exact (h.of_free hfree).1 j hj
    · rcases hk with hk | ⟨rfl, -, -⟩
      · exact (h.of_free hfree).1 k hk
      · exact hjk rfl
  case own =>
    intro j name hj
    rw [owns_register] at hj
    rw [handler?_register]
    rcases hj with hj | ⟨rfl, hname, hfree⟩
    · rw [h.own j name hj]
      simp
    · rw [if_pos ⟨hname, hfree⟩]
  case notForeign =>
    intro j name hj
    rw [owns_register] at hj
    rcases hj with hj | ⟨-, -, hfree⟩
    · exact h.notForeign j name hj
    · exact (h.of_free hfree).2
  case others =>
    intro name hnobody
    have hbefore : ∀ j, ¬ x.Owns j name :=
      fun j hj => hnobody j ((owns_register routers x i j name).mpr (.inl hj))
    have hunclaimed : ¬ (name ∈ (routers i).names ∧ x.table.handler? name = none) :=
      fun hclaimed => hnobody i ((owns_register routers x i i name).mpr (.inr ⟨rfl, hclaimed⟩))
    rw [handler?_register, if_neg hunclaimed]
    exact h.others name hbefore

theorem unregister (h : Shared routers foreign x) (i : Nat) :
    Shared routers foreign (x.call routers (.unregister i)).2 := by
  classical
  refine ⟨?disjoint, ?own, ?notForeign, ?others⟩
  case disjoint =>
    intro j k name hjk hj hk
    rw [owns_unregister] at hj hk
    exact h.disjoint j k name hjk hj.2 hk.2
  case own =>
    intro j name hj
    rw [owns_unregister] at hj
    have hnot : ¬ x.Owns i name := h.disjoint j i name hj.1 hj.2
    rw [handler?_unregister, if_neg hnot]
    exact h.own j name hj.2
  case notForeign =>
    intro j name hj
    rw [owns_unregister] at hj
    exact h.notForeign j name hj.2
  case others =>
    intro name hnobody
    rw [handler?_unregister]
    split
    · next howns => exact (h.notForeign i name howns).symm
    · next hnot =>
      refine h.others name fun j hj => ?_
      by_cases hji : j = i
      · exact hnot (hji ▸ hj)
      · exact hnobody j ((owns_unregister routers x i j name).mpr ⟨hji, hj⟩)

theorem call (h : Shared routers foreign x) (c : RegistrarCall) :
    Shared routers foreign (x.call routers c).2 := by
  cases c with
  | register i => exact h.register i
  | unregister i => exact h.unregister i

theorem calls (h : Shared routers foreign x) (cs : List RegistrarCall) :
    Shared routers foreign (x.calls routers cs) := by
  induction cs generalizing x with
  | nil => exact h
  | cons c rest ih => exact ih (h.call c)

/-- The names of the table are the foreign ones and those of the registrars. -/
theorem mem_names_iff (h : Shared routers foreign x) (name : String) :
    name ∈ x.table.names ↔ name ∈ foreign.names ∨ ∃ i, x.Owns i name := by
  rw [CommandTable.mem_names_iff, CommandTable.mem_names_iff]
  constructor
  · rintro ⟨handler, hhandler⟩
    by_cases howned : ∃ i, x.Owns i name
    · exact .inr howned
    · rw [h.others name (not_exists.mp howned)] at hhandler
      exact .inl ⟨handler, hhandler⟩
  · rintro (⟨handler, hforeign⟩ | ⟨i, howns⟩)
    · have hnobody : ∀ i, ¬ x.Owns i name := by
        intro i howns
        rw [h.notForeign i name howns] at hforeign
        exact Option.some_ne_none _ hforeign.symm
      exact ⟨handler, (h.others name hnobody).trans hforeign⟩
    · exact ⟨_, h.own i name howns⟩

theorem size_register (h : Shared routers foreign x) (i : Nat) :
    ((x.call routers (.register i)).2.registrars i).owned.size =
      (x.registrars i).owned.size + (x.call routers (.register i)).1 := by
  have htaken : ∀ name, (x.registrars i).Owns name → x.table.handler? name ≠ none := by
    intro name howns
    rw [h.own i name howns]
    exact Option.some_ne_none _
  rw [registrars_register_self]
  exact Registrar.size_claim _ _ htaken

theorem unregister_fst (h : Shared routers foreign x) (i : Nat) :
    (x.call routers (.unregister i)).1 = (x.registrars i).owned.size := by
  have htaken : ∀ name ∈ (x.registrars i).owned.keys, x.table.handler? name ≠ none := by
    intro name howns
    rw [h.own i name howns]
    exact Option.some_ne_none _
  rw [← Dict.length_keys]
  exact Registrar.release_fst (Dict.nodup_keys _) htaken

end Shared

theorem register_again (routers : Nat → Router Handler) (x : Switchboard Handler) (i : Nat) :
    ((x.call routers (.register i)).2.call routers (.register i)).1 = 0 := by
  have htaken : ∀ name ∈ (routers i).names,
      (x.call routers (.register i)).2.table.handler? name ≠ none := by
    intro name hname
    rw [handler?_register]
    split
    · exact Option.some_ne_none _
    · next hclaimed => exact fun hfree => hclaimed ⟨hname, hfree⟩
  exact Registrar.claim_fst_eq_zero _ _ htaken

/-- Registrars share the names of a table consistently. After any calls, no name belongs to two of them or
is foreign as well, the table has the foreign names and theirs and no others, and foreign names go where
they went in the beginning and all others to the handlers of their owners. A registration claims the names
that are free and counts them; again at once, it counts none. An unregistration counts all names of
its registrar, takes them away, and leaves everything else. -/
theorem registrars_share_names (routers : Nat → Router Handler) (foreign : CommandTable Handler)
    (cs : List RegistrarCall) :
    let x := (start foreign).calls routers cs
    (∀ i j name, i ≠ j → x.Owns i name → ¬ x.Owns j name) ∧
    (∀ i name, x.Owns i name → name ∉ foreign.names) ∧
    (∀ name, name ∈ x.table.names ↔ name ∈ foreign.names ∨ ∃ i, x.Owns i name) ∧
    (∀ name ∈ foreign.names, x.table.handler? name = foreign.handler? name) ∧
    (∀ i name, x.Owns i name → x.table.handler? name = some (routers i).handler) ∧
    (∀ i,
      let n := (x.call routers (.register i)).1
      let y := (x.call routers (.register i)).2
      (∀ name, y.Owns i name ↔ x.Owns i name ∨ name ∈ (routers i).names ∧ name ∉ x.table.names) ∧
      (y.registrars i).owned.size = (x.registrars i).owned.size + n ∧
      (∀ j, j ≠ i → y.registrars j = x.registrars j) ∧
      (y.call routers (.register i)).1 = 0) ∧
    (∀ i,
      let n := (x.call routers (.unregister i)).1
      let y := (x.call routers (.unregister i)).2
      n = (x.registrars i).owned.size ∧
      (∀ name, ¬ y.Owns i name) ∧
      (∀ j, j ≠ i → y.registrars j = x.registrars j) ∧
      (∀ name, x.Owns i name → name ∉ y.table.names) ∧
      ∀ name, ¬ x.Owns i name → y.table.handler? name = x.table.handler? name) := by
  classical
  intro x
  have hshared : Shared routers foreign x := (Shared.start routers foreign).calls cs
  have hforeign : ∀ i name, x.Owns i name → name ∉ foreign.names := by
    intro i name howns hname
    obtain ⟨handler, hhandler⟩ := CommandTable.mem_names_iff.mp hname
    rw [hshared.notForeign i name howns] at hhandler
    exact Option.some_ne_none _ hhandler.symm
  refine ⟨hshared.disjoint, hforeign, hshared.mem_names_iff, ?foreign, hshared.own, ?register,
    ?unregister⟩
  case foreign =>
    intro name hname
    exact hshared.others name fun i howns => hforeign i name howns hname
  case register =>
    intro i
    refine ⟨fun name => ?_, hshared.size_register i,
      fun j hj => registrars_register_of_ne routers x i j hj, register_again routers x i⟩
    rw [CommandTable.not_mem_names_iff]
    simpa using owns_register routers x i i name
  case unregister =>
    intro i
    refine ⟨hshared.unregister_fst i, fun name howns => ?_,
      fun j hj => registrars_unregister_of_ne routers x i j hj, fun name howns => ?_,
      fun name hnot => ?_⟩
    · exact ((owns_unregister routers x i i name).mp howns).1 rfl
    · rw [CommandTable.not_mem_names_iff]
      exact (handler?_unregister routers x i name).trans (if_pos howns)
    · exact (handler?_unregister routers x i name).trans (if_neg hnot)

end Switchboard

end PlaceholderScripts
