import Mathlib.Data.List.Pairwise
import PlaceholderScripts.Proofs.Files.Independence
import PlaceholderScripts.Proofs.Store.RoundTrip

/-!
# Saving many stores

The stores of a registry are saved one after the other, and a failure stops none of the later saves. Where no
file is in the way of another, a save does in their midst what it does alone. So the order is of no matter, and
what is found on the disk afterwards can be told from the single saves: a place that one of them changes alone
is as that one leaves it, and every other place is as it was.
-/

namespace PlaceholderScripts

namespace Store

def Apart (fs : FileSystem) (store other : Store) : Prop :=
  ∀ path, store.path = some path → ∀ path', other.path = some path' → fs.Apart path path'

theorem Apart.symm {fs : FileSystem} {store other : Store} (h : store.Apart fs other) :
    other.Apart fs store :=
  fun path hpath path' hpath' => (h path' hpath' path hpath).symm

instance (fs : FileSystem) (store other : Store) : Decidable (store.Apart fs other) :=
  match hstore : store.path, hother : other.path with
  | some path, some path' =>
    decidable_of_iff (fs.Apart path path')
      ⟨fun h p hp q hq => by
        obtain rfl : path = p := Option.some.inj (hstore.symm.trans hp)
        obtain rfl : path' = q := Option.some.inj (hother.symm.trans hq)
        exact h,
      fun h => h path hstore path' hother⟩
  | none, _ => .isTrue fun _ hp => nomatch hstore.symm.trans hp
  | some _, none => .isTrue fun _ _ _ hq => nomatch hother.symm.trans hq

instance (fs : FileSystem) : Std.Symm (Apart fs) := ⟨fun _ _ h => h.symm⟩

theorem sameChange_saveIn (store : Store) {fs fs' : FileSystem}
    (h : ∀ path, store.path = some path → FileSystem.Beside path fs fs') :
    (store.saveIn fs').1 = (store.saveIn fs).1 ∧
      FileSystem.SameChange fs fs' (store.saveIn fs).2 (store.saveIn fs').2 := by
  cases hpath : store.path with
  | none =>
    rw [saveIn_of_no_path hpath, saveIn_of_no_path hpath]
    exact ⟨rfl, .refl fs fs'⟩
  | some path =>
    rw [saveIn_of_path hpath, saveIn_of_path hpath]
    obtain ⟨hresult, hchange⟩ := (h path hpath).put store.text
    exact ⟨congrArg (Except.mapError _) hresult, hchange⟩

/-- A place that two saves change, each alone, is a directory that both of them make. -/
theorem Apart.node?_saveIn_eq {store other : Store} {fs : FileSystem} (h : store.Apart fs other)
    {place : Place} (hstore : (store.saveIn fs).2.node? place ≠ fs.node? place)
    (hother : (other.saveIn fs).2.node? place ≠ fs.node? place) :
    (store.saveIn fs).2.node? place = (other.saveIn fs).2.node? place := by
  obtain ⟨path, hpath, hkind⟩ := (store.node?_saveIn fs place).resolve_left hstore
  obtain ⟨path', hpath', hkind'⟩ := (other.node?_saveIn fs place).resolve_left hother
  have hpaths := h path hpath path' hpath'
  rcases hkind with ⟨habove, -, hmade⟩ | ⟨hfile, -⟩ <;>
    rcases hkind' with ⟨habove', -, hmade'⟩ | ⟨hfile', -⟩
  · rw [hmade, hmade']
  · exact absurd (hfile' ▸ habove) hpaths.notBelow
  · exact absurd (hfile ▸ habove') hpaths.notAbove
  · exact absurd (hfile.symm.trans hfile') hpaths.different

/-- What is left by saving stores, each of which does what it does alone. -/
structure Merges (fs : FileSystem) (stores : List Store) (fs' : FileSystem) : Prop where
  working : fs'.working = fs.working
  changed : ∀ store ∈ stores, ∀ place, (store.saveIn fs).2.node? place ≠ fs.node? place →
    fs'.node? place = (store.saveIn fs).2.node? place
  unchanged : ∀ place, (∀ store ∈ stores, (store.saveIn fs).2.node? place = fs.node? place) →
    fs'.node? place = fs.node? place

namespace Merges

variable {fs fs' : FileSystem} {stores : List Store}

theorem nil (fs : FileSystem) : Merges fs [] fs :=
  ⟨rfl, fun _ hstore => absurd hstore List.not_mem_nil, fun _ _ => rfl⟩

theorem node?_cases (h : Merges fs stores fs') (place : Place) :
    fs'.node? place = fs.node? place ∨
      ∃ store ∈ stores, (store.saveIn fs).2.node? place ≠ fs.node? place ∧
        fs'.node? place = (store.saveIn fs).2.node? place := by
  by_cases hsame : ∀ store ∈ stores, (store.saveIn fs).2.node? place = fs.node? place
  · exact .inl (h.unchanged place hsame)
  · obtain ⟨store, hstore, hne⟩ := not_forall₂.mp hsame
    exact .inr ⟨store, hstore, hne, h.changed store hstore place hne⟩

theorem node?_eq {other : FileSystem} {others : List Store} (h : Merges fs stores fs')
    (h' : Merges fs others other) (hmem : ∀ store, store ∈ others ↔ store ∈ stores) (place : Place) :
    other.node? place = fs'.node? place := by
  rcases h.node?_cases place with hsame | ⟨store, hstore, hne, hchanged⟩
  · rcases h'.node?_cases place with hsame' | ⟨store, hstore, hne, -⟩
    · exact hsame'.trans hsame.symm
    · have hchanged := h.changed store ((hmem store).mp hstore) place hne
      exact absurd (hchanged.symm.trans hsame) hne
  · rw [h'.changed store ((hmem store).mpr hstore) place hne, hchanged]

theorem directory (h : Merges fs stores fs') {place : Place} (hplace : fs.node? place = some .directory) :
    fs'.node? place = some .directory := by
  rcases h.node?_cases place with hsame | ⟨store, -, hne, -⟩
  · rw [hsame, hplace]
  · obtain ⟨path, -, ⟨-, hnone, -⟩ | ⟨-, hfile, -⟩⟩ := (store.node?_saveIn fs place).resolve_left hne
    · rw [hplace] at hnone
      cases hnone
    · exact absurd hplace hfile

/-- After other stores were saved, the way to a store's file is as it was, but for directories that were made. -/
theorem beside (h : Merges fs stores fs') (hworking : fs.node? fs.working = some .directory) {store : Store}
    {path : Path} (hpath : store.path = some path) (hapart : ∀ other ∈ stores, other.Apart fs store) :
    FileSystem.Beside path fs fs' := by
  refine ⟨h.working, ?_, fun place hplace => ?_, ?_⟩
  · have hstart : fs.node? (fs.start path) = some .directory := by
      rw [FileSystem.start, Path.start]
      split
      · rfl
      · exact hworking
    rw [hstart, h.directory hstart]
  · rcases h.node?_cases place with hsame | ⟨other, hother, hne, hchanged⟩
    · exact .inl hsame
    · obtain ⟨path', hpath', ⟨-, hnone, hmade⟩ | ⟨hfile, -⟩⟩ :=
        (other.node?_saveIn fs place).resolve_left hne
      · exact .inr ⟨hnone, hchanged.trans hmade⟩
      · exact absurd (hfile ▸ hplace) (hapart other hother path' hpath' path hpath).notAbove
  · rcases h.node?_cases (fs.destination path) with hsame | ⟨other, hother, hne, -⟩
    · exact hsame
    · obtain ⟨path', hpath', ⟨habove, -⟩ | ⟨hfile, -⟩⟩ :=
        (other.node?_saveIn fs (fs.destination path)).resolve_left hne
      · exact absurd habove (hapart other hother path' hpath' path hpath).notBelow
      · exact absurd hfile.symm (hapart other hother path' hpath' path hpath).different

/-- One more store is saved as if it were the only one, and its changes are added to those of the others. -/
theorem save (h : Merges fs stores fs') (hworking : fs.node? fs.working = some .directory) {store : Store}
    (hapart : ∀ other ∈ stores, other.Apart fs store) :
    (store.saveIn fs').1 = (store.saveIn fs).1 ∧ Merges fs (stores ++ [store]) (store.saveIn fs').2 := by
  obtain ⟨hresult, hchange⟩ := store.sameChange_saveIn fun path hpath => h.beside hworking hpath hapart
  refine ⟨hresult, hchange.working.trans h.working, fun other hother place hne => ?_, fun place hsame => ?_⟩
  · by_cases hstays : (store.saveIn fs).2.node? place = fs.node? place
    · rw [hchange.unchanged place hstays]
      rcases List.mem_append.mp hother with hother | hlast
      · exact h.changed other hother place hne
      · rw [List.mem_singleton.mp hlast] at hne
        exact absurd hstays hne
    · rw [hchange.changed place hstays]
      rcases List.mem_append.mp hother with hother | hlast
      · exact ((hapart other hother).node?_saveIn_eq hne hstays).symm
      · rw [List.mem_singleton.mp hlast]
  · rw [hchange.unchanged place (hsame store (List.mem_append_right _ (List.mem_singleton_self store)))]
    exact h.unchanged place fun other hother => hsame other (List.mem_append_left _ hother)

theorem readText (h : Merges fs stores fs') (hapart : stores.Pairwise (Apart fs)) {store : Store}
    (hstore : store ∈ stores) {path : Path} (hpath : store.path = some path) {text : String}
    (hread : (store.saveIn fs).2.readText path = .ok text) : fs'.readText path = .ok text := by
  obtain ⟨place, hresolve, htext⟩ := FileSystem.readText_eq_ok_iff.mp hread
  have hkeeps : FileSystem.KeepsDirectories (store.saveIn fs).2 fs' := by
    refine ⟨h.working.trans (store.working_saveIn fs).symm, fun p hp => ?_⟩
    by_cases hsame : (store.saveIn fs).2.node? p = fs.node? p
    · exact h.directory (hsame ▸ hp)
    · rw [h.changed store hstore p hsame, hp]
  refine FileSystem.readText_eq_ok_iff.mpr ⟨place, hkeeps.resolve hresolve, ?_⟩
  by_cases hstays : (store.saveIn fs).2.node? place = fs.node? place
  · rcases h.node?_cases place with hsame | ⟨other, hother, hne, -⟩
    · rw [hsame, ← hstays, htext]
    · have hplace : place = fs.destination path := by
        rw [FileSystem.eq_destination_of_resolve hresolve, working_saveIn, FileSystem.destination]
      -- the file is there before, so that no other store can have made a directory of it
      obtain ⟨path', hpath', ⟨-, hnone, -⟩ | ⟨hfile, -⟩⟩ := (other.node?_saveIn fs place).resolve_left hne
      · rw [← hstays, htext] at hnone
        cases hnone
      · have hdistinct : other ≠ store := fun heq => hne (heq ▸ hstays)
        have hpaths := hapart.forall hother hstore hdistinct path' hpath' path hpath
        exact absurd (hfile.symm.trans hplace) hpaths.different
  · rw [h.changed store hstore place hstays, htext]

end Merges

end Store

namespace World

/-- Stores that are apart are saved as if each were saved alone, and what they change adds up. -/
theorem run_saveStores {world : World} (hworking : world.files.node? world.files.working = some .directory)
    {before stores : List Store} {files : FileSystem} (h : Store.Merges world.files before files)
    (hapart : (before ++ stores).Pairwise (Store.Apart world.files)) :
    Registry.saves reply stores { world with files } =
        stores.map (fun store => (store, (store.saveIn world.files).1)) ∧
      ∃ files', (Dialogue.run reply (Registry.saveStores stores) { world with files }).2 =
          { world with files := files' } ∧
        Store.Merges world.files (before ++ stores) files' := by
  induction stores generalizing before files with
  | nil =>
    rw [List.append_nil]
    exact ⟨rfl, files, rfl, h⟩
  | cons store rest ih =>
    have hfirst : ∀ other ∈ before, other.Apart world.files store := fun other hother =>
      (List.pairwise_append.mp hapart).2.2 other hother store List.mem_cons_self
    obtain ⟨hresult, hmerges⟩ := h.save hworking hfirst
    rw [List.append_cons] at hapart ⊢
    obtain ⟨hsaves, files', hrun, hmerges'⟩ := ih hmerges hapart
    have hsave := run_save { world with files } store
    rw [run] at hsave
    rw [Registry.saves, Registry.run_saveStores_cons, hsave]
    refine ⟨?_, files', hrun, hmerges'⟩
    rw [hsaves, hresult]
    rfl

end World

namespace Registry

/-- The registered scripts may be saved in any order, provided that the files of no two of them are in each other's
way: each save then ends as it would end alone, which gives the number of failures, and the same is on the disk
afterwards. There the file of each script that was saved holds its values, as far as the written values can be
parsed, and nothing else is changed but that directories above these files were made. -/
theorem saveAll_in_any_order {world : World} {r : Registry} {order : List Definition}
    (hworking : world.files.node? world.files.working = some .directory)
    (hapart : (r.registered.map Definition.data).Pairwise (Store.Apart world.files))
    (horder : order.Perm r.registered) :
    let alone (d : Definition) : Except DataError Unit := (world.run d.data.save).1
    ∃ files : FileSystem,
      world.run (saveStores (order.map Definition.data)) =
          (r.registered.countP fun d => (alone d).toOption.isNone, { world with files }) ∧
        saves World.reply (order.map Definition.data) world = order.map (fun d => (d.data, alone d)) ∧
        (∀ place, files.node? place = (world.run r.saveAll).2.files.node? place) ∧
        (∀ d ∈ r.registered, ∀ path, d.data.path = some path → alone d = .ok () →
          files.readText path = .ok d.data.text ∧
            ((d.data.values ≠ Dict.empty → d.data.ReadsBack) →
              Store.FileHolds (files.readText path) d.data.values)) ∧
        files.working = world.files.working ∧
        ∀ place, files.node? place = world.files.node? place ∨
          ∃ d ∈ r.registered, ∃ path, d.data.path = some path ∧
            ((place ∈ world.files.parentPlaces path ∧ world.files.node? place = none ∧
                files.node? place = some .directory) ∨
              (place = world.files.destination path ∧ alone d = .ok () ∧
                files.node? place = some (.file (.text d.data.text)))) := by
  intro alone
  have hrunsAlone (d : Definition) : alone d = (d.data.saveIn world.files).1 :=
    congrArg Prod.fst (world.run_save d.data)
  have hdata : (order.map Definition.data).Perm (r.registered.map Definition.data) := horder.map _
  have hapart' : (order.map Definition.data).Pairwise (Store.Apart world.files) :=
    hdata.symm.pairwise hapart fun h => h.symm
  obtain ⟨hsaves, files, hrun, hmerges⟩ :=
    World.run_saveStores hworking (.nil world.files) hapart'
  obtain ⟨-, files₀, hrun₀, hmerges₀⟩ := World.run_saveStores hworking (.nil world.files) hapart
  rw [List.nil_append] at hmerges hmerges₀
  have hends : saves World.reply (order.map Definition.data) world = order.map (fun d => (d.data, alone d)) := by
    rw [hsaves, List.map_map]
    exact List.map_congr_left fun d _ => by rw [hrunsAlone]; rfl
  refine ⟨files, Prod.ext ?_ hrun, hends, fun place => ?_, fun d hd path hpath hok => ?_, hmerges.working,
    fun place => ?_⟩
  · rw [World.run, run_saveStores, hends, List.countP_map]
    exact horder.countP_eq _
  · rw [saveAll, World.run, hrun₀]
    exact hmerges₀.node?_eq hmerges (fun store => hdata.mem_iff) place
  · have hstore : d.data ∈ order.map Definition.data := List.mem_map_of_mem (horder.mem_iff.mpr hd)
    have hread : (d.data.saveIn world.files).2.readText path = .ok d.data.text := by
      have htexts := Store.texts_save World.disk hpath hok
      rwa [← World.run, World.run_save] at htexts
    have htext := hmerges.readText hapart' hstore hpath hread
    exact ⟨htext, fun hreads => htext ▸ (Store.readsBack_of_imp hreads).fileHolds⟩
  · rcases hmerges.node?_cases place with hsame | ⟨store, hstore, hne, hchanged⟩
    · exact .inl hsame
    · obtain ⟨d, hd, rfl⟩ := List.mem_map.mp hstore
      obtain ⟨path, hpath, hkind⟩ := (d.data.node?_saveIn world.files place).resolve_left hne
      refine .inr ⟨d, horder.mem_iff.mp hd, path, hpath, ?_⟩
      rw [hchanged, hrunsAlone]
      exact hkind.imp_right fun hwritten => ⟨hwritten.1, hwritten.2.2⟩

def keeping (identifier : String) (path : Option Path) : Definition :=
  { identifier, template := "", data := ⟨identifier, path, Dict.empty.insert "k" (.text identifier)⟩ }

/-- Two scripts with files below one directory, one whose file has no directory, and one that has no file. -/
def crowd : List Definition :=
  [keeping "a" "data/one/a.yml", keeping "b" "data/two/b.yml", keeping "c" "blocked/c.yml", keeping "d" none]

def narrow : World :=
  ⟨⟨[(["w"], .directory), (["w", "blocked"], .file (.text ""))], ["w"]⟩, .zero, fun _ _ text => .ok text⟩

/-- Saved from the last script to the first, one of them fails, and the two others are on the disk as after saving
them from the first to the last. -/
theorem saveAll_in_any_order_reversed :
    let r : Registry := crowd.foldl (fun r d => (r.register d).2) {}
    narrow.files.node? narrow.files.working = some .directory ∧
      (r.registered.map Definition.data).Pairwise (Store.Apart narrow.files) ∧
      r.registered.reverse.Perm r.registered ∧
      ∃ files : FileSystem,
        narrow.run (saveStores (r.registered.reverse.map Definition.data)) = (1, { narrow with files }) ∧
          (∀ place, files.node? place = (narrow.run r.saveAll).2.files.node? place) ∧
          files.readText "data/one/a.yml" = .ok "k: a\n" ∧
          files.readText "data/two/b.yml" = .ok "k: b\n" := by
  intro r
  have hworking : narrow.files.node? narrow.files.working = some .directory := by decide
  have hapart : (r.registered.map Definition.data).Pairwise (Store.Apart narrow.files) := by
    decide +kernel
  have horder : r.registered.reverse.Perm r.registered := List.reverse_perm _
  obtain ⟨files, hrun, -, hsame, hfiles, -⟩ := saveAll_in_any_order hworking hapart horder
  have hcount : (r.registered.countP fun d => (narrow.run d.data.save).1.toOption.isNone) = 1 := by
    decide +kernel
  rw [hcount] at hrun
  have htexts (identifier : String) (path : Path)
      (hmem : r.get? identifier = some (keeping identifier path))
      (hok : (narrow.run (keeping identifier path).data.save).1 = .ok ()) :
      files.readText path = .ok (keeping identifier path).data.text :=
    (hfiles _ (mem_registered_iff.mpr ⟨identifier, hmem⟩) path rfl hok).1
  have ha := htexts "a" "data/one/a.yml" rfl (by decide +kernel)
  have hb := htexts "b" "data/two/b.yml" rfl (by decide +kernel)
  have htexta : (keeping "a" "data/one/a.yml").data.text = "k: a\n" := by decide +kernel
  have htextb : (keeping "b" "data/two/b.yml").data.text = "k: b\n" := by decide +kernel
  exact ⟨hworking, hapart, horder, files, hrun, hsame, htexta ▸ ha, htextb ▸ hb⟩

end Registry

end PlaceholderScripts
