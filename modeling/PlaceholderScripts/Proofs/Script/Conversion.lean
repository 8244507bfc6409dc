import PlaceholderScripts.Script.Operator

/-!
# Stored values and values of scripts

A stored value of which every part has its like among the values of scripts comes back from a script as it was.
A value of a script can be stored as soon as nothing inside of it is a range, a function or an object of the host.
-/

namespace PlaceholderScripts

open Script (Value)

namespace Datum

mutual

/-- The integers inside have 64 bits with a sign, and the doubles are finite. -/
def Exact : Datum → Prop
  | .int i => Script.Arithmetic.fits i
  | .float x => x.isFinite
  | .list items => ExactItems items
  | .map entries => ExactEntries entries
  | .null | .bool _ | .text _ => True

def ExactItems : List Datum → Prop
  | [] => True
  | item :: items => item.Exact ∧ ExactItems items

def ExactEntries : List (String × Datum) → Prop
  | [] => True
  | (_, value) :: entries => value.Exact ∧ ExactEntries entries

end

mutual

theorem Exact.toDatum_ofDatum {d : Datum} (h : d.Exact) : (Value.ofDatum d).toDatum = .ok d := by
  match d with
  | .null | .bool _ | .text _ => rfl
  | .int i =>
    have hbounds : -(2 ^ 63) ≤ i ∧ i < 2 ^ 63 := by simpa [Exact, Script.Arithmetic.fits] using h
    rw [Value.ofDatum, if_pos hbounds.2, Value.toDatum]
  | .float x =>
    have hfinite : x.isFinite = true := h
    rw [Value.ofDatum, Value.toDatum, if_pos hfinite]
  | .list items =>
    rw [Value.ofDatum, Value.toDatum, ExactItems.toData_ofData h]
    rfl
  | .map entries =>
    rw [Value.ofDatum, Value.toDatum, ExactEntries.toEntries_ofEntries h]
    rfl
termination_by structural d

theorem ExactItems.toData_ofData {items : List Datum} (h : ExactItems items) :
    Value.toData (Value.ofData items) = .ok items := by
  match items with
  | [] => rfl
  | item :: items =>
    rw [Value.ofData, Value.toData, Exact.toDatum_ofDatum h.1, ExactItems.toData_ofData h.2]
    rfl
termination_by structural items

theorem ExactEntries.toEntries_ofEntries {entries : List (String × Datum)} (h : ExactEntries entries) :
    Value.toEntries (Value.ofEntries entries) = .ok entries := by
  match entries with
  | [] => rfl
  | (key, value) :: entries =>
    rw [Value.ofEntries, Value.toEntries, Exact.toDatum_ofDatum h.1, ExactEntries.toEntries_ofEntries h.2]
    rfl
termination_by structural entries

end

end Datum

namespace Script.Value

mutual

/-- Nothing inside of the value is a range, a function or an object of the host. -/
def Storable : Value → Prop
  | .list items => StorableItems items
  | .map entries => StorableEntries entries
  | .range _ _ _ | .steps _ _ _ | .function _ _ _ | .cell _ | .host _ => False
  | .unit | .bool _ | .int _ | .float _ | .char _ | .text _ => True

def StorableItems : List Value → Prop
  | [] => True
  | item :: items => item.Storable ∧ StorableItems items

def StorableEntries : List (String × Value) → Prop
  | [] => True
  | (_, value) :: entries => value.Storable ∧ StorableEntries entries

end

theorem exists_map_eq_ok_iff {α β ε : Type} {f : α → β} {r : Except ε α} :
    (∃ b, r.map f = .ok b) ↔ ∃ a, r = .ok a := by
  cases r <;> simp [Except.map]

mutual

theorem exists_toDatum_iff (v : Value) : (∃ d, v.toDatum = .ok d) ↔ v.Storable := by
  match v with
  | .unit | .bool _ | .int _ | .float _ | .char _ | .text _ => exact iff_of_true ⟨_, rfl⟩ trivial
  | .range _ _ _ | .steps _ _ _ | .function _ _ _ | .cell _ | .host _ =>
    exact iff_of_false (fun ⟨_, h⟩ => nomatch h) id
  | .list items =>
    rw [toDatum, exists_map_eq_ok_iff, exists_toData_iff items, Storable]
  | .map entries =>
    rw [toDatum, exists_map_eq_ok_iff, exists_toEntries_iff entries, Storable]
termination_by structural v

theorem exists_toData_iff (items : List Value) : (∃ ds, toData items = .ok ds) ↔ StorableItems items := by
  match items with
  | [] => exact iff_of_true ⟨_, rfl⟩ trivial
  | item :: items =>
    rw [toData, StorableItems, ← exists_toDatum_iff item, ← exists_toData_iff items]
    cases item.toDatum with
    | error e => simp
    | ok d => simp [exists_map_eq_ok_iff]
termination_by structural items

theorem exists_toEntries_iff (entries : List (String × Value)) :
    (∃ es, toEntries entries = .ok es) ↔ StorableEntries entries := by
  match entries with
  | [] => exact iff_of_true ⟨_, rfl⟩ trivial
  | (key, value) :: entries =>
    rw [toEntries, StorableEntries, ← exists_toDatum_iff value, ← exists_toEntries_iff entries]
    cases value.toDatum with
    | error e => simp
    | ok d => simp [exists_map_eq_ok_iff]
termination_by structural entries

end

end Script.Value

end PlaceholderScripts
