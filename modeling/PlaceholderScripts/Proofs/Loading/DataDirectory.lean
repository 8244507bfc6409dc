import PlaceholderScripts.Proofs.Loading.Reload
import PlaceholderScripts.Proofs.Store.Saving

/-!
# The directory of the data files

Saving a script makes the directory of the data files, where it is not there yet, and writes one file in
it. Once the directory is there, saves change nothing but the texts of the data files. If each data file
can be written at first, then every save succeeds ever after, and what can be loaded later is what could
be loaded at first, with the values that were saved last.
-/

namespace PlaceholderScripts

namespace Path

def frontNames (dir : Path) : List String := (frontParts dir).filter fun p => p ≠ "" && p ≠ "."

theorem IsName.parentNames?_join {name : String} (h : IsName name) (dir : Path) :
    parentNames? (join dir name) = some (frontNames dir) := by
  have hnames : names (join dir name) = frontNames dir ++ [name] := by
    rw [names, h.parts_join, List.filter_append]
    simp [frontNames, h.notEmpty, h.notHere]
  rw [parentNames?, hnames, List.dropLast_concat]
  simp

end Path

namespace Loader

variable (loader : Loader)

def dataName (identifier : String) : String := identifier ++ "_data.yml"

def makeDataDir (files : FileSystem) : Except FileError Unit × FileSystem :=
  files.createDirectories ((Path.front loader.dataDir).head? == some '/') (Path.frontNames loader.dataDir)

theorem makeParents_dataFile {identifier : String} (h : '/' ∉ identifier.toList) (files : FileSystem) :
    files.makeParents (loader.dataFile identifier) = loader.makeDataDir files := by
  have hname := isName_dataFile h
  simp only [FileSystem.makeParents, dataFile, hname.parentNames?_join, hname.isAbsolute_join]
  rfl

def DataPlace (ids : String → Prop) (dir place : Place) : Prop :=
  ∃ identifier, ids identifier ∧ place = dir ++ [dataName identifier]

/-- The file system from the making of the data directory on, in which the data files of some scripts can
be written. -/
structure DataDir (ids : String → Prop) (made : FileSystem) (dir : Place) : Prop where
  making : ∃ files, loader.makeDataDir files = (.ok (), made)
  entered : made.enter loader.dataDir = .ok dir
  there : made.node? dir = some .directory
  simple : ∀ identifier, ids identifier → '/' ∉ identifier.toList
  writable : ∀ identifier, ids identifier →
    ∃ text written, made.writeText (loader.dataFile identifier) text = .ok written

/-- A save that succeeds has made the directory, and written the file in it. -/
theorem run_save_eq_ok {loader : Loader} {store : Store} (howns : loader.Owns store) {world : World}
    (h : (world.run store.save).1 = .ok ()) :
    (loader.makeDataDir world.files).1 = .ok () ∧
      ∃ written, (loader.makeDataDir world.files).2.writeText (loader.dataFile store.identifier)
        store.text = .ok written := by
  rw [World.run_save, Store.saveIn_eq_ok_iff howns.path] at h
  rcases world.files.put_cases (loader.dataFile store.identifier) store.text with
    ⟨e, hput⟩ | ⟨made, written, hmade, hwritten, -⟩
  · rw [hput] at h
    cases h
  · rw [loader.makeParents_dataFile howns.simple] at hmade
    rw [hmade]
    exact ⟨rfl, written, hwritten⟩

namespace DataDir

variable {loader} {ids : String → Prop} {made files : FileSystem} {dir : Place} {identifier : String}

/-- Where a data file can be written there is the directory for it. -/
theorem of_writable (hmaking : ∃ files, loader.makeDataDir files = (.ok (), made))
    (hsimple : ∀ identifier, ids identifier → '/' ∉ identifier.toList)
    (hwritable : ∀ identifier, ids identifier →
      ∃ text written, made.writeText (loader.dataFile identifier) text = .ok written)
    (hany : ∃ identifier, ids identifier) : ∃ dir, loader.DataDir ids made dir := by
  obtain ⟨identifier, hid⟩ := hany
  obtain ⟨_, _, hwritten⟩ := hwritable identifier hid
  obtain ⟨place, _, hresolve, _⟩ := FileSystem.writeText_eq_ok hwritten
  have hname := isName_dataFile (hsimple identifier hid)
  rw [dataFile, FileSystem.resolve_join hname] at hresolve
  split at hresolve
  · cases hresolve
  · cases henter : made.enter loader.dataDir with
    | error e =>
      rw [henter] at hresolve
      cases hresolve
    | ok dir =>
      rw [henter] at hresolve
      exact ⟨dir, hmaking, henter, (FileSystem.walk_name_eq_ok hname hresolve).1, hsimple, hwritable⟩

/-- Nothing was written since but data files. -/
abbrev Grown (ids : String → Prop) (made : FileSystem) (dir : Place) (files : FileSystem) : Prop :=
  made.Rewrites (DataPlace ids dir) files

/-- The same once the directory is made, which it may be already. -/
def Ready (loader : Loader) (ids : String → Prop) (made : FileSystem) (dir : Place)
    (files : FileSystem) : Prop :=
  ∃ files', loader.makeDataDir files = (.ok (), files') ∧ Grown ids made dir files'

theorem makeDataDir_again (h : loader.DataDir ids made dir) (hgrown : Grown ids made dir files) :
    loader.makeDataDir files = (.ok (), files) := by
  obtain ⟨_, hmade⟩ := h.making
  exact FileSystem.createDirectories_again hmade hgrown.keepsDirectories

theorem ready (h : loader.DataDir ids made dir) (hgrown : Grown ids made dir files) :
    Ready loader ids made dir files :=
  ⟨files, h.makeDataDir_again hgrown, hgrown⟩

theorem resolve_dataFile (h : loader.DataDir ids made dir) (hid : ids identifier) {place : Place}
    (hresolve : made.resolve (loader.dataFile identifier) = .ok place) :
    place = dir ++ [dataName identifier] := by
  have hname := isName_dataFile (h.simple identifier hid)
  rw [dataFile, FileSystem.resolve_join hname] at hresolve
  split at hresolve
  · cases hresolve
  · rw [h.entered] at hresolve
    exact (FileSystem.walk_name_eq_ok hname hresolve).2

theorem writeText (h : loader.DataDir ids made dir) (hgrown : Grown ids made dir files)
    (hid : ids identifier) (text : String) :
    files.writeText (loader.dataFile identifier) text =
        .ok (files.set (dir ++ [dataName identifier]) (.file (.text text))) ∧
      Grown ids made dir (files.set (dir ++ [dataName identifier]) (.file (.text text))) := by
  obtain ⟨_, _, hwritten⟩ := h.writable identifier hid
  obtain ⟨place, hroot, hresolve, hnode, hwrite⟩ := hgrown.writeText hwritten text
  obtain rfl := h.resolve_dataFile hid hresolve
  exact ⟨hwrite, hgrown.set hroot ⟨identifier, hid, rfl⟩ hnode text⟩

theorem node?_set (dir : Place) (files : FileSystem) (identifier other : String) (node : FileNode) :
    (files.set (dir ++ [dataName identifier]) node).node? (dir ++ [dataName other]) =
      if other = identifier then some node else files.node? (dir ++ [dataName other]) := by
  have hroot : dir ++ [dataName identifier] ≠ [] := by simp
  rw [FileSystem.node?_set hroot]
  by_cases heq : other = identifier
  · rw [if_pos heq, if_pos (by rw [heq])]
  · rw [if_neg heq, if_neg]
    intro hplaces
    exact heq (dataFileName_inj (List.singleton_inj.mp (List.append_cancel_left hplaces)))

/-- A save makes the directory and writes the file, and does not fail. -/
theorem run_save (h : loader.DataDir ids made dir) (world : World)
    (hmaking : loader.makeDataDir world.files = (.ok (), files)) (hgrown : Grown ids made dir files)
    {store : Store} (howns : loader.Owns store) (hid : ids store.identifier) :
    world.run store.save = (.ok (), { world with
      files := files.set (dir ++ [dataName store.identifier]) (.file (.text store.text)) }) := by
  have hput : world.files.put (loader.dataFile store.identifier) store.text =
      (.ok (), files.set (dir ++ [dataName store.identifier]) (.file (.text store.text))) := by
    rw [FileSystem.put, loader.makeParents_dataFile (h.simple _ hid), hmaking]
    simp only [(h.writeText hgrown hid store.text).1]
  rw [World.run_save, Store.saveIn_of_path howns.path, hput]
  rfl

section Stores

variable {world : World} {stores : List Store}

structure Saved (dir : Place) (stores : List Store) (files files' : FileSystem) : Prop where
  texts : ∀ store ∈ stores,
    files'.node? (dir ++ [dataName store.identifier]) = some (.file (.text store.text))
  others : ∀ identifier, (∀ store ∈ stores, store.identifier ≠ identifier) →
    files'.node? (dir ++ [dataName identifier]) = files.node? (dir ++ [dataName identifier])

variable (world) in
/-- Once the directory is there, every save is a write to one of the files in it. -/
theorem run_saveStores_grown (h : loader.DataDir ids made dir)
    (howns : ∀ store ∈ stores, loader.Owns store ∧ ids store.identifier)
    (hdistinct : (stores.map Store.identifier).Nodup) (hgrown : Grown ids made dir files) :
    ∃ files', Grown ids made dir files' ∧ Saved dir stores files files' ∧
      (World.run { world with files } (Registry.saveStores stores)).2 = { world with files := files' } := by
  induction stores generalizing files with
  | nil => exact ⟨files, hgrown, ⟨fun _ hmem => absurd hmem List.not_mem_nil, fun _ _ => rfl⟩, rfl⟩
  | cons store rest ih =>
    obtain ⟨hfirst, hrest⟩ := List.nodup_cons.mp hdistinct
    obtain ⟨hstore, hid⟩ := howns store List.mem_cons_self
    have hsave := h.run_save { world with files } (h.makeDataDir_again hgrown) hgrown hstore hid
    obtain ⟨files', hgrown', hsaved, hrun⟩ := ih (fun st hst => howns st (List.mem_cons_of_mem _ hst))
      hrest (h.writeText hgrown hid store.text).2
    refine ⟨files', hgrown', ⟨fun st hst => ?_, fun identifier hother => ?_⟩, ?_⟩
    · rcases List.mem_cons.mp hst with rfl | hlater
      · rw [hsaved.others, node?_set, if_pos rfl]
        intro st' hst' hsame
        exact hfirst (List.mem_map.mpr ⟨st', hst', hsame⟩)
      · exact hsaved.texts st hlater
    · rw [hsaved.others identifier fun st hst => hother st (List.mem_cons_of_mem _ hst), node?_set,
        if_neg fun hsame => hother store List.mem_cons_self hsame.symm]
    · rw [World.run, Registry.run_saveStores_cons, ← World.run, hsave]
      exact hrun

theorem run_saveStores (h : loader.DataDir ids made dir)
    (howns : ∀ store ∈ stores, loader.Owns store ∧ ids store.identifier)
    (hdistinct : (stores.map Store.identifier).Nodup) (hready : Ready loader ids made dir world.files)
    (hany : stores ≠ []) :
    ∃ files, Grown ids made dir files ∧
      (∀ store ∈ stores,
        files.node? (dir ++ [dataName store.identifier]) = some (.file (.text store.text))) ∧
      (world.run (Registry.saveStores stores)).2 = { world with files } := by
  obtain ⟨files, hmaking, hgrown⟩ := hready
  obtain ⟨files', hgrown', hsaved, hrun⟩ := h.run_saveStores_grown world howns hdistinct hgrown
  refine ⟨files', hgrown', hsaved.texts, ?_⟩
  rw [← hrun]
  cases stores with
  | nil => exact absurd rfl hany
  | cons store rest =>
    -- the first save leaves the same files as it would with the directory made before
    obtain ⟨hstore, hid⟩ := howns store List.mem_cons_self
    have hfirst := h.run_save world hmaking hgrown hstore hid
    have hfirst' := h.run_save { world with files } (h.makeDataDir_again hgrown) hgrown hstore hid
    rw [World.run, World.run, Registry.run_saveStores_cons, Registry.run_saveStores_cons, ← World.run,
      ← World.run, hfirst, hfirst']

end Stores

end DataDir

end Loader

end PlaceholderScripts
