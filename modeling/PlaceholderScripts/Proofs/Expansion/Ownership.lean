import PlaceholderScripts.Console
import PlaceholderScripts.Proofs.Expansion.Registrars
import PlaceholderScripts.Proofs.History

/-!
# Registrars beside others

Others may change the table of commands while registrars use it: they may remove any name, and register
handlers of their own. A registrar remembers names and not handlers. So it gives back exactly the names that
it claimed since it last gave back all of them, and what it takes away is its own work, unless somebody
else had taken that away before. Here every handler in the table is marked with who installed it.
-/

namespace PlaceholderScripts

variable {Handler : Type}

structure Installed (Handler : Type) where
  installer : Option Nat
  handler : Handler
  deriving DecidableEq, Repr

inductive Deed (Handler : Type) where
  | call (c : RegistrarCall)
  | add (name : String) (handler : Handler)
  | remove (name : String)

namespace Switchboard

section Deed

variable (routers : Nat → Router Handler)

def installed (i : Nat) : Installed Handler := ⟨some i, (routers i).handler⟩

def deed (x : Switchboard (Installed Handler)) : Deed Handler → Switchboard (Installed Handler)
  | .call c => (x.call (fun i => ⟨(routers i).names, installed routers i⟩) c).2
  | .add name handler => { x with table := (x.table.register name ⟨none, handler⟩).2 }
  | .remove name => { x with table := (x.table.unregister name).2 }

/-- What has become of an empty table. -/
def history (ds : List (Deed Handler)) : Switchboard (Installed Handler) :=
  ds.foldl (deed routers) (start {})

theorem history_concat (ds : List (Deed Handler)) (d : Deed Handler) :
    history routers (ds ++ [d]) = (history routers ds).deed routers d := by
  rw [history, List.foldl_append]
  rfl

/-- The registrar claims the name now. -/
def Claims (i : Nat) (name : String) (x : Switchboard (Installed Handler)) (d : Deed Handler) : Prop :=
  d = .call (.register i) ∧ name ∈ (routers i).names ∧ name ∉ x.table.names

/-- Somebody else removes now what the registrar has installed under the name. -/
def Loses (i : Nat) (name : String) (x : Switchboard (Installed Handler)) (d : Deed Handler) : Prop :=
  d ≠ .call (.unregister i) ∧ x.table.handler? name = some (installed routers i) ∧
    name ∉ (x.deed routers d).table.names

variable (x : Switchboard (Installed Handler)) (d : Deed Handler) (i : Nat) (name : String)

theorem owns_deed :
    (x.deed routers d).Owns i name ↔
      Claims routers i name x d ∨ x.Owns i name ∧ d ≠ .call (.unregister i) := by
  cases d with
  | call c =>
    cases c with
    | register j =>
      rw [Claims, CommandTable.not_mem_names_iff, deed, owns_register]
      by_cases h : j = i
      · subst h
        simp [or_comm]
      · simp [h, Ne.symm h]
    | unregister j =>
      rw [Claims, deed, owns_unregister]
      simp [and_comm, ne_comm]
  | add other handler => simp [Claims, deed, Owns]
  | remove other => simp [Claims, deed, Owns]

/-- What is under a name stays there, or goes. Nothing is put in its place at once. -/
theorem handler?_deed {entry : Installed Handler} (h : x.table.handler? name = some entry) :
    (x.deed routers d).table.handler? name = some entry ∨
      (x.deed routers d).table.handler? name = none := by
  classical
  cases d with
  | call c =>
    cases c with
    | register j =>
      left
      rw [deed, handler?_register, h]
      simp
    | unregister j =>
      rw [deed, handler?_unregister, h]
      split
      · exact .inr rfl
      · exact .inl rfl
  | add other handler =>
    left
    rw [deed, CommandTable.handler?_register, h]
    simp
  | remove other =>
    rw [deed, CommandTable.handler?_unregister, h]
    split
    · exact .inr rfl
    · exact .inl rfl

theorem handler?_deed_of_claims (h : Claims routers i name x d) :
    (x.deed routers d).table.handler? name = some (installed routers i) := by
  obtain ⟨rfl, hname, hfree⟩ := h
  rw [CommandTable.not_mem_names_iff] at hfree
  exact (handler?_register _ x i name).trans (if_pos ⟨hname, hfree⟩)

end Deed

/-- A registrar has the names that it claimed since it last gave back all names. -/
theorem owns_history_iff (routers : Nat → Router Handler) (ds : List (Deed Handler)) (i : Nat)
    (name : String) :
    (history routers ds).Owns i name ↔
      Since (fun before d => Claims routers i name (history routers before) d)
        (fun d => d ≠ .call (.unregister i)) ds := by
  induction ds using List.reverseRecOn with
  | nil => simp [history, start, Owns]
  | append_singleton ds d ih => rw [history_concat, owns_deed, since_concat, ih]

/-- What is under a name of a registrar is its own work, if nobody else removed that. -/
theorem installed_or_lost (routers : Nat → Router Handler) (ds : List (Deed Handler)) (i : Nat)
    (name : String) (howns : (history routers ds).Owns i name) :
    (history routers ds).table.handler? name = some (installed routers i) ∨
      Since (fun before d => Loses routers i name (history routers before) d)
        (fun d => d ≠ .call (.unregister i)) ds := by
  induction ds using List.reverseRecOn with
  | nil => simp [history, start, Owns] at howns
  | append_singleton ds d ih =>
    rw [history_concat, owns_deed] at howns
    rw [history_concat, since_concat]
    -- the last deed claims the name, or finds it with the registrar and leaves it there
    rcases howns with hclaims | ⟨howned, hkept⟩
    · exact .inl (handler?_deed_of_claims routers _ d i name hclaims)
    · rcases ih howned with hown | hlost
      · rcases handler?_deed routers _ d name hown with hstill | hgone
        · exact .inl hstill
        · refine .inr (.inl ⟨hkept, hown, ?_⟩)
          rwa [CommandTable.not_mem_names_iff]
      · exact .inr (.inr ⟨hlost, hkept⟩)

/-- An unregistration takes away the names that its registrar claimed since it last gave back all names, and
leaves all others with their handlers. What it takes away was installed by the registrar itself, unless
somebody else removed what the registrar had installed under the name since then. -/
theorem unregister_takes_claims (routers : Nat → Router Handler) (ds : List (Deed Handler)) (i : Nat) :
    let x := history routers ds
    let y := x.deed routers (.call (.unregister i))
    (∀ name, x.Owns i name ↔
      Since (fun before d => Claims routers i name (history routers before) d)
        (fun d => d ≠ .call (.unregister i)) ds) ∧
    (∀ name, ¬ x.Owns i name → y.table.handler? name = x.table.handler? name) ∧
    (∀ name, x.Owns i name → name ∉ y.table.names) ∧
    ∀ name, x.Owns i name →
      x.table.handler? name = some (installed routers i) ∨
        Since (fun before d => Loses routers i name (history routers before) d)
          (fun d => d ≠ .call (.unregister i)) ds := by
  classical
  intro x y
  refine ⟨owns_history_iff routers ds i, fun name hnot => ?_, fun name howns => ?_,
    installed_or_lost routers ds i⟩
  · exact (handler?_unregister _ x i name).trans (if_neg hnot)
  · rw [CommandTable.not_mem_names_iff]
    exact (handler?_unregister _ x i name).trans (if_pos howns)

/-- After somebody else has removed a name of a registrar and registered a handler of their own for it, the
registrar takes that handler away. -/
theorem unregister_takes_foreign :
    let routers : Nat → Router String := fun _ => ⟨Console.names, "router"⟩
    let x := history routers [.call (.register 0), .remove Expansion.commandName,
      .add Expansion.commandName "foreign"]
    x.table.handler? Expansion.commandName = some ⟨none, "foreign"⟩ ∧
      (x.deed routers (.call (.unregister 0))).table.handler? Expansion.commandName = none := by
  decide +kernel

end Switchboard

end PlaceholderScripts
