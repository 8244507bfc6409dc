import PlaceholderScripts.Proofs.Loading.Reload
import PlaceholderScripts.Proofs.Store.Saving

/-!
# Values that go to the disk and come back

A store that was opened on a file and changed at will is saved, and what it held is found again: by whoever
opens the file next, and by the store itself if it reads the file again. The writer always leaves a text that
is not blank, so the reader parses it, also where the store is empty. A save that succeeded can be repeated,
and then the file system stays as it is.
-/

namespace PlaceholderScripts

namespace Store

inductive Edit where
  | set (key : String) (value : Datum)
  | remove (key : String)
  | clear

def edit (store : Store) : Edit → Store
  | .set key value => (store.set key value).2
  | .remove key => (store.remove key).2
  | .clear => store.clear

def edited (store : Store) (edits : List Edit) : Store := edits.foldl edit store

theorem path_edit (store : Store) (e : Edit) : (store.edit e).path = store.path := by
  cases e <;> rfl

@[simp] theorem path_edited (store : Store) (edits : List Edit) :
    (store.edited edits).path = store.path := by
  induction edits generalizing store with
  | nil => rfl
  | cons e rest ih => exact (ih (store.edit e)).trans (store.path_edit e)

theorem edited_clear_set (store : Store) (values : Dict Datum) :
    store.edited (.clear :: values.entries.map fun e => .set e.1 e.2) = { store with values } := by
  rw [edited, List.foldl_cons, List.foldl_map]
  exact store.refill_eq values

def ReadsBack (store : Store) : Prop := Yaml.readData store.text = .ok store.values

theorem readsBack_of_empty {store : Store} (h : store.values = Dict.empty) : store.ReadsBack := by
  have hempty : ((Yaml.readData "\x7b\x7d\n").toOption.getD Dict.empty).isEmpty = true := by
    decide +kernel
  rw [ReadsBack, text, h]
  refine (eq_ok_getD_of_isSome (by decide +kernel) Dict.empty).trans (congrArg Except.ok ?_)
  exact Dict.ext_entries (List.isEmpty_iff.mp hempty)

/-- So only of a store with values is it a question whether they are read back. -/
theorem readsBack_of_imp {store : Store} (h : store.values ≠ Dict.empty → store.ReadsBack) :
    store.ReadsBack := by
  by_cases hempty : store.values = Dict.empty
  · exact readsBack_of_empty hempty
  · exact h hempty

theorem ReadsBack.fileHolds {store : Store} (h : store.ReadsBack) :
    FileHolds (.ok store.text) store.values :=
  .mapping (Yaml.allBlank_writeMap _) h

theorem save_congr {store other : Store} (hpath : other.path = store.path)
    (hvalues : other.values = store.values) : other.save = store.save := by
  rw [save, save, text, text, hpath, hvalues]

theorem path_of_load {world : World} {identifier : String} {path : Path} {store : Store}
    (h : (world.run (load identifier path)).1 = .ok store) : store.path = some path := by
  rw [World.run, Loader.run_load_store World.steadyFiles] at h
  cases hvalues : valuesOfReply path (world.texts path) with
  | error e =>
    rw [hvalues] at h
    cases h
  | ok values =>
    rw [hvalues] at h
    cases h
    rfl

end Store

namespace World

theorem run_load {world : World} {path : Path} {values : Dict Datum}
    (h : Store.FileHolds (world.texts path) values) (identifier : String) :
    world.run (Store.load identifier path) = (.ok ⟨identifier, some path, values⟩, world) := by
  rw [run, Loader.run_load_store steadyFiles, Store.valuesOfReply_eq_ok_iff.mpr h]
  rfl

end World

namespace Store

/-- After a store was saved, whoever opens its file finds its values, the store itself gets them back when it
reads the file again, whatever it held meanwhile, and whoever saves the same values again leaves everything
as it is. That the written values can be parsed is assumed, but for those of an empty store. -/
theorem saved_values_survive {opened saved : World} {identifier : String} {path : Path} {fresh : Store}
    (hload : (opened.run (load identifier path)).1 = .ok fresh) (edits : List Edit)
    (hsave : (saved.run (fresh.edited edits).save).1 = .ok ())
    (hreads : (fresh.edited edits).values ≠ Dict.empty → (fresh.edited edits).ReadsBack) :
    let store := fresh.edited edits
    let world := (saved.run store.save).2
    world.texts path = .ok store.text ∧
      (∀ name, world.run (load name path) = (.ok ⟨name, some path, store.values⟩, world)) ∧
      (∀ values, world.run (reload { store with values }) = ((.ok (), store), world)) ∧
      ∀ again : Store, again.path = some path → again.values = store.values →
        world.run again.save = (.ok (), world) := by
  intro store world
  have hpath : store.path = some path := (path_edited fresh edits).trans (path_of_load hload)
  have hreads : store.ReadsBack := readsBack_of_imp hreads
  have htext : world.texts path = .ok store.text := texts_save World.disk hpath hsave
  have hholds : FileHolds (world.texts path) store.values := htext ▸ hreads.fileHolds
  refine ⟨htext, fun name => World.run_load hholds name, fun values => ?_, fun again hagain hvalues => ?_⟩
  · have hpath' : ({ store with values } : Store).path = some path := hpath
    rw [World.run, Loader.run_reload_store World.steadyFiles hpath', valuesOfReply_eq_ok_iff.mpr hholds]
    rfl
  · rw [save_congr (hagain.trans hpath.symm) hvalues]
    exact World.run_save_again hsave

/-- A document of keys and texts that look like something else, and of values of every shape. -/
def oddText : String :=
  "'': ''\n'12':\n- null\n- \x7b\x7d\n- - 3\n  - 'true'\nk:\n  '1.5': 3.0\n? |-\n  l\n  m\n: |\n  a\n  b\n" ++
    "'null': '~'\n"

/-- The values of that document, which proofs need not compute. -/
@[irreducible]
def odd : Dict Datum := (Yaml.readData oddText).toOption.getD Dict.empty

theorem readData_oddText : Yaml.readData oddText = .ok odd := by
  unfold odd
  exact eq_ok_getD_of_isSome (by decide +kernel) _

/-- These values are found again in the file of a new store, in a directory that the save has to make. -/
theorem saved_values_survive_odd :
    let world : World := ⟨⟨[], []⟩, .zero, fun _ _ text => .ok text⟩
    let fresh : Store := ⟨"s", some "data/s_data.yml", Dict.empty⟩
    let edits : List Edit := .set "old" .null :: .clear :: odd.entries.map fun e => .set e.1 e.2
    (world.run (load "s" "data/s_data.yml")).1 = .ok fresh ∧
      (world.run (fresh.edited edits).save).1 = .ok () ∧ (fresh.edited edits).ReadsBack ∧
      let after := (world.run (fresh.edited edits).save).2
      after.texts "data/s_data.yml" = .ok oddText ∧
        after.run (load "s" "data/s_data.yml") = (.ok ⟨"s", some "data/s_data.yml", odd⟩, after) := by
  intro world fresh edits
  have hstore : fresh.edited edits = { fresh with values := odd } :=
    edited_clear_set (fresh.edit (.set "old" .null)) odd
  have htext : (fresh.edited edits).text = oddText := by
    rw [hstore]
    decide +kernel
  have hreads : (fresh.edited edits).ReadsBack := by
    rw [ReadsBack, htext, hstore]
    exact readData_oddText
  have habsent : FileHolds (world.texts "data/s_data.yml") Dict.empty := by
    have htexts : world.texts "data/s_data.yml" = .error .notFound := by decide +kernel
    exact htexts ▸ .absent
  have hload : (world.run (load "s" "data/s_data.yml")).1 = .ok fresh :=
    congrArg Prod.fst (World.run_load habsent "s")
  have hsave : (world.run (fresh.edited edits).save).1 = .ok () := by
    rw [hstore]
    decide +kernel
  obtain ⟨hfile, hagain, -⟩ := saved_values_survive hload edits hsave fun _ => hreads
  refine ⟨hload, hsave, hreads, ?_⟩
  intro after
  refine ⟨htext ▸ hfile, ?_⟩
  have hvalues : (fresh.edited edits).values = odd := by rw [hstore]
  rw [← hvalues]
  exact hagain "s"

end Store

end PlaceholderScripts
