import PlaceholderScripts.Proofs.Expansion.Commands

/-!
# Data that is read again

A store that reads its file again ends with the values of the file, or with the values that it had. The
file is read and parsed before anything is dropped, so a file that gives no values costs none. The debug
command does this to the script that it names, and otherwise touches nothing.
-/

namespace PlaceholderScripts

namespace Store

/-- Why a data file gives no values: it is there but cannot be read as text, or its text is no mapping. -/
inductive FileFails (path : Path) : Except FileError String → DataError → Prop
  | unreadable {cause : FileError} (h : cause ≠ .notFound) :
      FileFails path (.error cause) (.io path cause)
  | malformed {text : String} {cause : Yaml.ReadError} (h : Text.allBlank text.toList = false)
      (hread : Yaml.readData text = .error cause) : FileFails path (.ok text) (.malformed path cause)

theorem valuesOfReply_eq_error_iff {path : Path} {reply : Except FileError String} {e : DataError} :
    valuesOfReply path reply = .error e ↔ FileFails path reply e := by
  constructor
  · intro h
    cases reply with
    | error cause =>
      have hcause : cause ≠ .notFound := by
        rintro rfl
        cases h
      have he : valuesOfReply path (.error cause) = .error (.io path cause) := by
        cases cause <;> first | rfl | exact absurd rfl hcause
      obtain rfl := Except.error.inj (h.symm.trans he)
      exact .unreadable hcause
    | ok text =>
      rw [valuesOfReply, valuesOfText] at h
      split at h
      · cases h
      · next hblank =>
        split at h
        · cases h
        · next hread =>
          cases h
          exact .malformed (Bool.not_eq_true _ ▸ hblank) hread
  · intro h
    cases h with
    | @unreadable cause hcause =>
      cases cause <;> first | rfl | exact absurd rfl hcause
    | malformed hblank hread =>
      rw [valuesOfReply, valuesOfText, if_neg (by rw [hblank]; exact Bool.false_ne_true), hread]

/-- What comes of reading again: a store without a file stays as it is, and any other has exactly the
values of its file or, where that gives none, its own. -/
inductive Rereads (store : Store) (files : Path → Except FileError String) :
    Except DataError Unit → Store → Prop
  | inMemory (h : store.path = none) : Rereads store files (.ok ()) store
  | replaced {path : Path} {values : Dict Datum} (hpath : store.path = some path)
      (h : FileHolds (files path) values) : Rereads store files (.ok ()) { store with values }
  | refused {path : Path} {e : DataError} (hpath : store.path = some path)
      (h : FileFails path (files path) e) : Rereads store files (.error e) store

theorem run_reload (world : World) (store : Store) :
    ∃ result after, world.run store.reload = ((result, after), world) ∧
      store.Rereads world.texts result after := by
  cases hpath : store.path with
  | none =>
    refine ⟨.ok (), store, ?_, .inMemory hpath⟩
    rw [World.run, reload, hpath]
    rfl
  | some path =>
    rw [World.run, Loader.run_reload_store World.steadyFiles hpath]
    cases hvalues : valuesOfReply path (world.texts path) with
    | ok values => exact ⟨_, _, rfl, .replaced hpath (valuesOfReply_eq_ok_iff.mp hvalues)⟩
    | error e => exact ⟨_, _, rfl, .refused hpath (valuesOfReply_eq_error_iff.mp hvalues)⟩

end Store

theorem Registry.update_self {r : Registry} {handle : Handle} {d : Definition}
    (h : r.definition? handle = some d) : r.update handle d = r := by
  obtain ⟨scripts, handles, inRange⟩ := r
  obtain ⟨hlt, hd⟩ := List.getElem?_eq_some_iff.mp h
  have hscripts : scripts.set handle d = scripts := by
    rw [← hd]
    exact List.set_getElem_self hlt
  simp only [update, hscripts]

namespace Expansion

/-- Reading a store again replaces all of its values or none, and leaves the files alone. So does the
command for the script that it names, of which it changes nothing but the values. If the values stay, so
does all else. -/
theorem rereading_is_atomic (world : World) :
    (∀ store : Store, ∃ result after, world.run store.reload = ((result, after), world) ∧
      store.Rereads world.texts result after) ∧
    ∀ (x : Expansion) (worker : Worker) (sender : Identity) (identifier : String),
      let outcome := world.run (x.execute worker sender ["debug", "loaddata", identifier])
      match x.registry.handles.get? identifier with
      | none => outcome = ((.line ("Invalid script identifier '" ++ identifier ++ "'"), x), world)
      | some handle => ∃ d result data x', x.registry.definition? handle = some d ∧
          d.data.Rereads world.texts result data ∧
          outcome = ((dataLine "Loaded" identifier result, x'), world) ∧
          x' = { x with registry := x.registry.update handle { d with data } } ∧
          ∀ e, result = .error e → x' = x := by
  refine ⟨Store.run_reload world, fun x worker sender identifier => ?_⟩
  have hexecute : x.execute worker sender ["debug", "loaddata", identifier] =
      x.debugData .loadData identifier := rfl
  intro outcome
  cases hhandle : x.registry.handles.get? identifier with
  | none =>
    have hnone : x.registry.get? identifier = none := by rw [Registry.get?, hhandle, Option.bind_none]
    exact run_debugData_of_none hnone .loadData
  | some handle =>
    obtain ⟨d, hd⟩ : ∃ d, x.registry.definition? handle = some d :=
      ⟨_, List.getElem?_eq_getElem (Registry.lt_length_of_handle hhandle)⟩
    obtain ⟨result, data, hrun, hrereads⟩ := Store.run_reload world d.data
    refine ⟨d, result, data, _, hd, hrereads, ?_, rfl, ?_⟩
    · change world.run (x.execute worker sender ["debug", "loaddata", identifier]) = _
      rw [hexecute, run_debugData_load hhandle hd, hrun]
    · rintro e rfl
      cases hrereads with
      | refused => rw [Registry.update_self hd]

end Expansion

end PlaceholderScripts
