import PlaceholderScripts.Proofs.Files.Putting
import PlaceholderScripts.Store

/-!
# Saving a store

To save a store is to put the text of its values into its file. A store without a file is saved by doing
nothing.
-/

namespace PlaceholderScripts

namespace Store

/-- What comes of saving a store, and the file system after it. -/
def saveIn (store : Store) (fs : FileSystem) : Except DataError Unit × FileSystem :=
  match store.path with
  | none => (.ok (), fs)
  | some path =>
    let (result, files) := fs.put path store.text
    (result.mapError (.io path), files)

variable {store : Store} {path : Path}

theorem saveIn_of_path (h : store.path = some path) (fs : FileSystem) :
    store.saveIn fs = ((fs.put path store.text).1.mapError (.io path), (fs.put path store.text).2) := by
  rw [saveIn, h]

theorem saveIn_of_no_path (h : store.path = none) (fs : FileSystem) :
    store.saveIn fs = (.ok (), fs) := by
  rw [saveIn, h]

theorem saveIn_eq_ok_iff (h : store.path = some path) {fs : FileSystem} :
    (store.saveIn fs).1 = .ok () ↔ (fs.put path store.text).1 = .ok () := by
  rw [saveIn_of_path h]
  cases (fs.put path store.text).1 <;> simp [Except.mapError]

/-- A save that succeeded succeeds again, and changes nothing any more. -/
theorem saveIn_again {fs : FileSystem} (h : (store.saveIn fs).1 = .ok ()) :
    store.saveIn (store.saveIn fs).2 = (.ok (), (store.saveIn fs).2) := by
  cases hpath : store.path with
  | none => rw [saveIn_of_no_path hpath, saveIn_of_no_path hpath]
  | some path =>
    rw [saveIn_eq_ok_iff hpath] at h
    rw [saveIn_of_path hpath, saveIn_of_path hpath, FileSystem.put_again h]
    rfl

theorem working_saveIn (store : Store) (fs : FileSystem) :
    (store.saveIn fs).2.working = fs.working := by
  cases hpath : store.path with
  | none => rw [saveIn_of_no_path hpath]
  | some path =>
    rw [saveIn_of_path hpath]
    exact fs.working_put path store.text

/-- A place is changed by a save in one of two ways: a directory is made on the way to the store's file, or the
place is that of the file, and holds the store's text. -/
theorem node?_saveIn (store : Store) (fs : FileSystem) (place : Place) :
    (store.saveIn fs).2.node? place = fs.node? place ∨
      ∃ path, store.path = some path ∧
        ((place ∈ fs.parentPlaces path ∧ fs.node? place = none ∧
            (store.saveIn fs).2.node? place = some .directory) ∨
          (place = fs.destination path ∧ fs.node? place ≠ some .directory ∧
            (store.saveIn fs).1 = .ok () ∧
            (store.saveIn fs).2.node? place = some (.file (.text store.text)))) := by
  cases hpath : store.path with
  | none =>
    rw [saveIn_of_no_path hpath]
    exact .inl rfl
  | some path =>
    rw [saveIn_eq_ok_iff hpath, saveIn_of_path hpath]
    exact (fs.node?_put path store.text place).imp_right fun hchanged => ⟨path, rfl, hchanged⟩

end Store

namespace World

theorem reply_createParents (world : World) (path : Path) :
    world.reply (.createParents path) =
      ((world.files.makeParents path).1, { world with files := (world.files.makeParents path).2 }) := by
  rw [FileSystem.makeParents]
  simp only [reply]
  cases Path.parentNames? path <;> rfl

theorem run_save (world : World) (store : Store) :
    world.run store.save =
      ((store.saveIn world.files).1, { world with files := (store.saveIn world.files).2 }) := by
  rw [run, Store.save]
  cases hpath : store.path with
  | none =>
    rw [Store.saveIn_of_no_path hpath]
    rfl
  | some path =>
    rw [Store.saveIn_of_path hpath, FileSystem.put]
    simp only [Dialogue.bind_eq, Dialogue.run_bind, Program.run_createParents, reply_createParents]
    rcases world.files.makeParents path with ⟨failed | ⟨⟩, made⟩
    · rfl
    · simp only [Dialogue.run_bind, Program.run_writeText, reply]
      cases made.writeText path store.text <;> rfl

theorem run_save_again {world : World} {store : Store} (h : (world.run store.save).1 = .ok ()) :
    (world.run store.save).2.run store.save = (.ok (), (world.run store.save).2) := by
  rw [run_save] at h
  rw [run_save world, run_save, Store.saveIn_again h]

end World

end PlaceholderScripts
