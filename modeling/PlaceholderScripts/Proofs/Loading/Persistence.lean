import PlaceholderScripts.Proofs.Loading.DataDirectory

/-!
# What is loaded again

A registry serves values if it has the scripts that could be loaded at first, each with its template and
with these values; files offer values if loading from them gives such a registry. Saving all scripts of a
registry settles its values in files. Settled files offer their values again, provided that written values
read back, that no file that is read is a data file, and that no template comes into reach by the making of
the data directory.
-/

namespace PlaceholderScripts

theorem World.run_of_not_writing {α : Type} {program : Program α} {Q : α → Prop}
    (h : program.Obeys (fun q => ¬ q.IsWriting) Q) (world : World) : (world.run program).2 = world :=
  h.run (R := fun s t => t = s) (fun _ => rfl) (fun _ _ _ hst htu => htu.trans hst)
    (fun world _ => world.reply_of_not_writing) world

def Registry.ReadsBack (r : Registry) : Prop :=
  ∀ d ∈ r.registered, Yaml.readData d.data.text = .ok d.data.values

namespace Loader

section Reading

theorem storeLoad_obeys (identifier : String) (path : Path) :
    (Store.load identifier path).Obeys (fun q => ¬ q.IsWriting) fun _ => True := by
  have hread : (Store.read path).Obeys (fun q => ¬ q.IsWriting) fun _ => True :=
    ⟨id, fun _ => trivial⟩
  refine hread.bind fun values _ => ?_
  cases values <;> exact trivial

variable (loader : Loader)

theorem loadDefinition_obeys (identifier : String) (entry : ScriptEntry) :
    (loader.loadDefinition identifier entry).Obeys (fun q => ¬ q.IsWriting) fun _ => True := by
  refine ⟨id, fun template => ?_⟩
  cases template with
  | error e => exact trivial
  | ok template =>
    refine (storeLoad_obeys identifier (loader.dataFile identifier)).bind fun data _ => ?_
    cases data with
    | error e => exact trivial
    | ok data => exact ⟨id, fun _ => trivial⟩

theorem loadEntries_obeys (entries : List (String × ScriptEntry)) (count : Nat) (r : Registry) :
    (loader.loadEntries entries count r).Obeys (fun q => ¬ q.IsWriting) fun _ => True := by
  induction entries generalizing count r with
  | nil => exact trivial
  | cons e rest ih =>
    refine (loader.loadDefinition_obeys e.1 e.2).bind fun d _ => ?_
    cases d with
    | none => exact ih count r
    | some d => exact ih (count + 1) (r.register d).2

theorem load_obeys (r : Registry) :
    (loader.load r).Obeys (fun q => ¬ q.IsWriting) fun _ => True := by
  have hread : (Configuration.load loader.configPath).Obeys (fun q => ¬ q.IsWriting) fun _ => True :=
    ⟨id, fun _ => trivial⟩
  refine hread.bind fun configuration _ => ?_
  cases configuration with
  | error e => exact trivial
  | ok configuration =>
    exact (loader.loadEntries_obeys configuration.entries 0 r).bind fun _ _ => trivial

end Reading

section

variable (loader : Loader) (configuration : Configuration) (texts : Path → Except FileError String)

/-- From these files the same scripts can be loaded as from `texts`, with the given values. -/
structure Offers (vals : String → Dict Datum) (texts' : Path → Except FileError String) : Prop where
  configured : Configuration.ofReply loader.configPath (texts' loader.configPath) = .ok configuration
  scripts : ∀ identifier entry template values, configuration.get? identifier = some entry →
    (loader.Loadable texts' identifier entry template values ↔
      (∃ old, loader.Loadable texts identifier entry template old) ∧ values = vals identifier)

/-- The registry has the scripts that could be loaded from `texts`, with the given values. -/
def Serves (vals : String → Dict Datum) (now : Instant) (r : Registry) : Prop :=
  ∀ identifier d, r.get? identifier = some d ↔
    ∃ entry template old, configuration.get? identifier = some entry ∧
      loader.Loadable texts identifier entry template old ∧
      d = loader.loaded identifier entry template (vals identifier) now

end

variable {loader : Loader} {configuration : Configuration} {texts : Path → Except FileError String}
  {vals : String → Dict Datum}

variable (loader configuration texts) in
/-- The values of the scripts that can be loaded. -/
def loadableValues (identifier : String) : Dict Datum :=
  match (configuration.get? identifier).bind (loader.readScript? texts identifier) with
  | some (_, values) => values
  | none => Dict.empty

theorem offers_loadableValues
    (h : Configuration.ofReply loader.configPath (texts loader.configPath) = .ok configuration) :
    loader.Offers configuration texts (loader.loadableValues configuration texts) texts where
  configured := h
  scripts := by
    intro identifier entry template values hentry
    have hvalues {template values} (hloadable : loader.Loadable texts identifier entry template values) :
        loader.loadableValues configuration texts identifier = values := by
      rw [loadableValues, hentry, Option.bind_some, readScript?_eq_some_iff.mpr hloadable]
    constructor
    · intro hloadable
      exact ⟨⟨values, hloadable⟩, (hvalues hloadable).symm⟩
    · rintro ⟨⟨old, hold⟩, rfl⟩
      rwa [hvalues hold]

/-- Loading into an empty registry makes it serve what the files offer. -/
theorem Offers.run_load {world : World} (h : loader.Offers configuration texts vals world.texts) :
    ∃ n r, world.run (loader.load {}) = ((.ok n, r), world) ∧
      loader.Serves configuration texts vals world.clock r := by
  have hworld := World.run_of_not_writing (loader.load_obeys {}) world
  have hload := Loader.run_load World.steadyFiles World.forwardClock loader {} world
  rw [← World.run] at hload
  generalize world.run (loader.load {}) = outcome at hload hworld
  obtain ⟨⟨result, r⟩, world'⟩ := outcome
  obtain rfl : world' = world := hworld
  obtain ⟨-, hload⟩ := hload
  rw [h.configured] at hload
  obtain ⟨rfl, hloads⟩ := hload
  have hloads := hloads.loadsConfiguration
  -- the clock stands still while the scripts are loaded
  have hnow (now : Instant) (hbegun : world'.clock.nanos ≤ now.nanos)
      (hended : now.nanos ≤ world'.clock.nanos) : now = world'.clock := by
    cases now
    cases hclock : world'.clock
    rw [hclock] at hbegun hended
    congr
    exact Nat.le_antisymm hended hbegun
  refine ⟨_, r, rfl, fun identifier d => ⟨fun hd => ?_, ?_⟩⟩
  · obtain ⟨entry, template, values, now, hentry, hloadable, rfl, hbegun, hended⟩ :=
      hloads.exists_loaded (fun _ => rfl) hd
    obtain ⟨⟨old, hold⟩, rfl⟩ := (h.scripts identifier entry template values hentry).mp hloadable
    exact ⟨entry, template, old, hentry, hold, by rw [hnow now hbegun hended]⟩
  · rintro ⟨entry, template, old, hentry, hold, rfl⟩
    have hloadable := (h.scripts identifier entry template _ hentry).mpr ⟨⟨old, hold⟩, rfl⟩
    obtain ⟨_, now, _, _, hd, hbegun, hended⟩ :=
      hloads.registered identifier entry template _ hentry hloadable
    rw [hd, hnow now hbegun hended]

/-- The values after those of one script were changed. -/
def withValues (vals : String → Dict Datum) (identifier : String) (values : Dict Datum) :
    String → Dict Datum :=
  fun other => if other = identifier then values else vals other

theorem Serves.identifier_eq {now : Instant} {r : Registry}
    (h : loader.Serves configuration texts vals now r) {identifier : String} {d : Definition}
    (hd : r.get? identifier = some d) : d.identifier = identifier := by
  obtain ⟨entry, template, old, _, _, rfl⟩ := (h identifier d).mp hd
  rfl

theorem Serves.reads {now : Instant} {r : Registry}
    (h : loader.Serves configuration texts vals now r) (hreads : r.ReadsBack) {identifier : String}
    (hid : loader.IsLoadable texts configuration identifier) :
    Yaml.readData (Yaml.writeMap (vals identifier).entries) = .ok (vals identifier) := by
  obtain ⟨entry, template, old, hentry, hold⟩ := hid
  have hd := (h identifier _).mpr ⟨entry, template, old, hentry, hold, rfl⟩
  have hread := hreads _ (Registry.mem_registered_iff.mpr ⟨identifier, hd⟩)
  exact hread

/-- A registry serves the new values of a script whose values were changed in it. -/
theorem Serves.update {now : Instant} {r : Registry}
    (h : loader.Serves configuration texts vals now r) {identifier : String} {handle : Handle}
    {d : Definition} (hhandle : r.handles.get? identifier = some handle)
    (hd : r.definition? handle = some d) (values : Dict Datum) :
    loader.Serves configuration texts (withValues vals identifier values) now
      (r.update handle { d with data := { d.data with values } }) := by
  have hget : r.get? identifier = some d := (Registry.get?_of_handle hhandle).trans hd
  intro other d'
  by_cases hother : other = identifier
  · subst hother
    obtain ⟨entry, template, old, hentry, hold, rfl⟩ := (h other d).mp hget
    rw [Registry.get?_update_self hhandle hd, Option.some_inj, withValues, if_pos rfl]
    constructor
    · rintro rfl
      exact ⟨entry, template, old, hentry, hold, rfl⟩
    · rintro ⟨entry', template', old', hentry', hold', rfl⟩
      obtain rfl := Option.some.inj (hentry.symm.trans hentry')
      obtain ⟨rfl, -⟩ := hold.unique hold'
      rfl
  · -- no two identifiers share a handle, since each script knows its own
    have hapart : r.handles.get? other ≠ some handle := by
      intro hsame
      have hget' : r.get? other = some d := (Registry.get?_of_handle hsame).trans hd
      exact hother ((h.identifier_eq hget').symm.trans (h.identifier_eq hget))
    rw [Registry.get?_update_of_ne hapart, withValues, if_neg hother]
    exact h other d'

section Settling

variable {ids : String → Prop} {made files files' : FileSystem} {dir : Place}

structure Settled (ids : String → Prop) (made : FileSystem) (dir : Place) (vals : String → Dict Datum)
    (files : FileSystem) : Prop where
  grown : DataDir.Grown ids made dir files
  texts : ∀ identifier, ids identifier →
    files.node? (dir ++ [dataName identifier]) =
      some (.file (.text (Yaml.writeMap (vals identifier).entries)))

theorem Settled.node?_eq (h : Settled ids made dir vals files) (h' : Settled ids made dir vals files')
    (place : Place) : files'.node? place = files.node? place := by
  by_cases hplace : DataPlace ids dir place
  · obtain ⟨identifier, hid, rfl⟩ := hplace
    rw [h.texts identifier hid, h'.texts identifier hid]
  · rw [h.grown.node?_eq hplace, h'.grown.node?_eq hplace]

theorem Settled.readText (hdir : loader.DataDir ids made dir) (h : Settled ids made dir vals files)
    {identifier : String} (hid : ids identifier) :
    files.readText (loader.dataFile identifier) =
      .ok (Yaml.writeMap (vals identifier).entries) := by
  obtain ⟨_, _, hwritten⟩ := hdir.writable identifier hid
  obtain ⟨place, _, hresolve, _⟩ := h.grown.writeText hwritten ""
  obtain rfl := hdir.resolve_dataFile hid hresolve
  exact FileSystem.readText_eq_ok_iff.mpr ⟨_, h.grown.resolve_iff.mpr hresolve, h.texts identifier hid⟩

theorem Serves.owned {now : Instant} {r : Registry} (h : loader.Serves configuration texts vals now r)
    (hsimple : ∀ identifier, loader.IsLoadable texts configuration identifier → '/' ∉ identifier.toList)
    {identifier : String} {d : Definition} (hd : r.get? identifier = some d) :
    loader.IsLoadable texts configuration identifier ∧ loader.Made identifier d ∧
      d.data.values = vals identifier := by
  obtain ⟨entry, template, old, hentry, hold, rfl⟩ := (h identifier d).mp hd
  have hloadable : loader.IsLoadable texts configuration identifier :=
    ⟨entry, template, old, hentry, hold⟩
  exact ⟨hloadable, made_loaded loader (hsimple identifier hloadable) _ _ _ _, rfl⟩

/-- Saving all scripts settles the values that the registry serves. -/
theorem Serves.run_saveAll {now : Instant} {r : Registry}
    (h : loader.Serves configuration texts vals now r)
    (hdir : loader.DataDir (loader.IsLoadable texts configuration) made dir) {world : World}
    (hready : DataDir.Ready loader (loader.IsLoadable texts configuration) made dir world.files)
    (hany : ∃ identifier, loader.IsLoadable texts configuration identifier) :
    ∃ files, Settled (loader.IsLoadable texts configuration) made dir vals files ∧
      (world.run r.saveAll).2 = { world with files } := by
  have howned {identifier : String} {d : Definition} (hd : r.get? identifier = some d) :=
    h.owned hdir.simple hd
  have hdistinct : ((r.registered.map Definition.data).map Store.identifier).Nodup := by
    have hnames : r.registered.map (Store.identifier ∘ Definition.data) = r.identifiers :=
      Registry.registered_map_eq_identifiers fun _ _ hd => (howned hd).2.1.owner
    rw [List.map_map, hnames]
    exact r.handles.nodup_keys
  have howns : ∀ store ∈ r.registered.map Definition.data,
      loader.Owns store ∧ loader.IsLoadable texts configuration store.identifier := by
    intro store hstore
    obtain ⟨d, hd, rfl⟩ := List.mem_map.mp hstore
    obtain ⟨identifier, hd⟩ := Registry.mem_registered_iff.mp hd
    obtain ⟨hloadable, hmade, -⟩ := howned hd
    exact ⟨hmade.data, hmade.owner ▸ hloadable⟩
  -- a script that could be loaded is registered, and so it is among those that are saved
  have hstores {identifier : String} (hloadable : loader.IsLoadable texts configuration identifier) :
      ∃ store ∈ r.registered.map Definition.data, store.identifier = identifier ∧
        store.values = vals identifier := by
    obtain ⟨entry, template, old, hentry, hold⟩ := hloadable
    have hd := (h identifier _).mpr ⟨entry, template, old, hentry, hold, rfl⟩
    refine ⟨_, List.mem_map.mpr ⟨_, Registry.mem_registered_iff.mpr ⟨identifier, hd⟩, rfl⟩, ?_⟩
    exact ⟨(howned hd).2.1.owner, (howned hd).2.2⟩
  have hsome : r.registered.map Definition.data ≠ [] := by
    obtain ⟨identifier, hloadable⟩ := hany
    obtain ⟨store, hmem, -⟩ := hstores hloadable
    exact List.ne_nil_of_mem hmem
  obtain ⟨files, hgrown, hsaved, hrun⟩ := hdir.run_saveStores howns hdistinct hready hsome
  refine ⟨files, ⟨hgrown, fun identifier hloadable => ?_⟩, hrun⟩
  obtain ⟨store, hmem, hidentifier, hvalues⟩ := hstores hloadable
  have htext := hsaved store hmem
  rwa [hidentifier, Store.text, hvalues] at htext

end Settling

variable (loader configuration) in
/-- The files that are read when scripts are loaded, but for the data files. -/
def Reads (path : Path) : Prop :=
  path = loader.configPath ∨ ∃ identifier entry,
    configuration.get? identifier = some entry ∧ path = Path.join loader.scriptsDir entry.file

/-- The file system in which scripts are loaded and saved: each script that can be loaded can be saved,
no file that is read is one of their data files, and making the data directory brings no template into
reach. -/
structure Grounds (loader : Loader) (configuration : Configuration) (files made : FileSystem)
    (dir : Place) : Prop extends
    loader.DataDir (loader.IsLoadable files.readText configuration) made dir where
  origin : loader.makeDataDir files = (.ok (), made)
  configured : Configuration.ofReply loader.configPath (files.readText loader.configPath) =
    .ok configuration
  names : ∀ identifier entry, configuration.get? identifier = some entry → '/' ∉ identifier.toList
  apart : ∀ path, loader.Reads configuration path → ∀ place, made.resolve path = .ok place →
    ¬ DataPlace (loader.IsLoadable files.readText configuration) dir place
  templates : ∀ identifier entry text, configuration.get? identifier = some entry →
    made.readText (Path.join loader.scriptsDir entry.file) = .ok text →
    files.readText (Path.join loader.scriptsDir entry.file) = .ok text

namespace Grounds

theorem of_saves {world : World} {made : FileSystem} (hmade : (loader.makeDataDir world.files).2 = made)
    (hconfigured : Configuration.ofReply loader.configPath (world.texts loader.configPath) =
      .ok configuration)
    (hnames : ∀ identifier entry, configuration.get? identifier = some entry → '/' ∉ identifier.toList)
    (hsaves : ∀ identifier entry template values, configuration.get? identifier = some entry →
      loader.Loadable world.texts identifier entry template values →
      (world.run (Store.save ⟨identifier, some (loader.dataFile identifier), values⟩)).1 = .ok ())
    (hapart : ∀ path identifier, loader.Reads configuration path →
      loader.IsLoadable world.texts configuration identifier →
      made.resolve path ≠ made.resolve (loader.dataFile identifier))
    (htemplates : ∀ identifier entry text, configuration.get? identifier = some entry →
      made.readText (Path.join loader.scriptsDir entry.file) = .ok text →
      world.texts (Path.join loader.scriptsDir entry.file) = .ok text)
    (hany : ∃ identifier, loader.IsLoadable world.texts configuration identifier) :
    ∃ dir, loader.Grounds configuration world.files made dir := by
  have hsimple : ∀ identifier, loader.IsLoadable world.texts configuration identifier →
      '/' ∉ identifier.toList := by
    rintro identifier ⟨entry, _, _, hentry, _⟩
    exact hnames identifier entry hentry
  have hsaved : ∀ identifier, loader.IsLoadable world.texts configuration identifier →
      loader.makeDataDir world.files = (.ok (), made) ∧
        ∃ text written, made.writeText (loader.dataFile identifier) text = .ok written := by
    rintro identifier ⟨entry, template, values, hentry, hloadable⟩
    obtain ⟨hmaking, written, hwritten⟩ :=
      run_save_eq_ok ⟨rfl, hnames identifier entry hentry⟩
        (hsaves identifier entry template values hentry hloadable)
    rw [hmade] at hwritten
    exact ⟨Prod.ext hmaking hmade, _, written, hwritten⟩
  have hmaking : loader.makeDataDir world.files = (.ok (), made) := by
    obtain ⟨identifier, hloadable⟩ := hany
    exact (hsaved identifier hloadable).1
  obtain ⟨dir, hdir⟩ := DataDir.of_writable ⟨world.files, hmaking⟩ hsimple
    (fun identifier hloadable => (hsaved identifier hloadable).2) hany
  refine ⟨dir, { hdir with
    origin := hmaking, configured := hconfigured, names := hnames, templates := htemplates, apart := ?_ }⟩
  rintro path hpath place hplace ⟨identifier, hloadable, rfl⟩
  obtain ⟨_, written, hwritten⟩ := hdir.writable identifier hloadable
  obtain ⟨place, _, hresolve, _⟩ := FileSystem.writeText_eq_ok hwritten
  obtain rfl := hdir.resolve_dataFile hloadable hresolve
  exact hapart path identifier hpath hloadable (hplace.trans hresolve.symm)

variable {files made files' : FileSystem} {dir : Place}

theorem makesDirectories (h : loader.Grounds configuration files made dir) :
    ∃ places, FileSystem.MakesDirectories places files made := by
  have hmakes := FileSystem.makesDirectories_createDirectories files
    ((Path.front loader.dataDir).head? == some '/') (Path.frontNames loader.dataDir)
  have horigin : files.createDirectories _ _ = (.ok (), made) := h.origin
  rwa [horigin] at hmakes

section Settled

variable (h : loader.Grounds configuration files made dir)
  (hsettled : Settled (loader.IsLoadable files.readText configuration) made dir vals files')

include h hsettled

/-- What is read but the data is read as it was where the directory of the data was made. -/
theorem readText_iff_of_settled {path : Path} {text : String} (hpath : loader.Reads configuration path) :
    files'.readText path = .ok text ↔ made.readText path = .ok text :=
  hsettled.grown.readText_iff (h.apart path hpath)

theorem configured_of_settled
    (hany : ∃ identifier, loader.IsLoadable files.readText configuration identifier) :
    Configuration.ofReply loader.configPath (files'.readText loader.configPath) = .ok configuration := by
  obtain ⟨_, hmakes⟩ := h.makesDirectories
  cases hconfig : files.readText loader.configPath with
  | ok text =>
    rw [(h.readText_iff_of_settled hsettled (.inl rfl)).mpr (hmakes.readText hconfig), ← hconfig]
    exact h.configured
  | error e =>
    -- an absent configuration has no scripts
    obtain ⟨identifier, entry, _, _, hentry, _⟩ := hany
    have hconfigured := h.configured
    rw [hconfig] at hconfigured
    cases e with
    | notFound =>
      obtain rfl := Except.ok.inj hconfigured
      cases hentry
    | _ => cases hconfigured

theorem template_of_settled {identifier : String} {entry : ScriptEntry} {template : String}
    (hentry : configuration.get? identifier = some entry) :
    files'.readText (Path.join loader.scriptsDir entry.file) = .ok template ↔
      files.readText (Path.join loader.scriptsDir entry.file) = .ok template := by
  obtain ⟨_, hmakes⟩ := h.makesDirectories
  rw [h.readText_iff_of_settled hsettled (.inr ⟨identifier, entry, hentry, rfl⟩)]
  exact ⟨h.templates identifier entry template hentry, hmakes.readText⟩

theorem isLoadable_of_settled {identifier : String} {entry : ScriptEntry} {template : String}
    {values : Dict Datum} (hentry : configuration.get? identifier = some entry)
    (hloadable : loader.Loadable files'.readText identifier entry template values) :
    loader.IsLoadable files.readText configuration identifier := by
  by_contra hid
  have htemplate := (h.template_of_settled hsettled hentry).mp hloadable.template
  -- a data file that could not be loaded at first is as it was, but for a gap that was closed
  have hother : ¬ DataPlace (loader.IsLoadable files.readText configuration) dir
      (dir ++ [dataName identifier]) := by
    rintro ⟨other, hother, hplaces⟩
    have hname := List.singleton_inj.mp (List.append_cancel_left hplaces)
    exact hid (dataFileName_inj hname ▸ hother)
  have hsame := hsettled.grown.readText_join h.entered h.there
    (isName_dataFile (h.names identifier entry hentry)) hother
  have hdata := hloadable.data
  rw [dataFile, hsame] at hdata
  obtain ⟨_, hmakes⟩ := h.makesDirectories
  rcases hmakes.readText_cases (loader.dataFile identifier) with hgap | hsame
  · refine hid ⟨entry, template, Dict.empty, hentry, htemplate, ?_⟩
    rw [hgap]
    exact .absent
  · refine hid ⟨entry, template, values, hentry, htemplate, ?_⟩
    rw [← hsame]
    exact hdata

/-- Where the settled values of a script read back, these are what its data file holds. -/
theorem fileHolds_iff_of_settled {identifier : String} {values : Dict Datum}
    (hid : loader.IsLoadable files.readText configuration identifier)
    (hread : Yaml.readData (Yaml.writeMap (vals identifier).entries) = .ok (vals identifier)) :
    Store.FileHolds (files'.readText (loader.dataFile identifier)) values ↔ values = vals identifier := by
  rw [hsettled.readText h.toDataDir hid]
  constructor
  · intro hdata
    cases hdata with
    | blank hblank =>
      rw [Yaml.allBlank_writeMap] at hblank
      cases hblank
    | mapping _ hvalues =>
      rw [hread] at hvalues
      exact (Except.ok.inj hvalues).symm
  · rintro rfl
    exact .mapping (Yaml.allBlank_writeMap _) hread

theorem offers_of_settled
    (hreads : ∀ identifier, loader.IsLoadable files.readText configuration identifier →
      Yaml.readData (Yaml.writeMap (vals identifier).entries) = .ok (vals identifier))
    (hany : ∃ identifier, loader.IsLoadable files.readText configuration identifier) :
    loader.Offers configuration files.readText vals files'.readText := by
  refine ⟨h.configured_of_settled hsettled hany, fun identifier entry template values hentry => ?_⟩
  constructor
  · intro hloadable
    have hid := h.isLoadable_of_settled hsettled hentry hloadable
    have htemplate := (h.template_of_settled hsettled hentry).mp hloadable.template
    have hvalues := (h.fileHolds_iff_of_settled hsettled hid (hreads identifier hid)).mp hloadable.data
    obtain ⟨entry', _, old, hentry', hold⟩ := hid
    obtain rfl := Option.some.inj (hentry'.symm.trans hentry)
    exact ⟨⟨old, htemplate, hold.data⟩, hvalues⟩
  · rintro ⟨⟨old, hold⟩, rfl⟩
    have hid : loader.IsLoadable files.readText configuration identifier :=
      ⟨entry, template, old, hentry, hold⟩
    exact ⟨(h.template_of_settled hsettled hentry).mpr hold.template,
      (h.fileHolds_iff_of_settled hsettled hid (hreads identifier hid)).mpr rfl⟩

end Settled

end Grounds

end Loader

end PlaceholderScripts
