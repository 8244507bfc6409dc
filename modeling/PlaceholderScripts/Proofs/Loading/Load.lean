import PlaceholderScripts.Loader
import PlaceholderScripts.Proofs.Surroundings.Clock
import PlaceholderScripts.Proofs.Surroundings.Files

/-!
# What loading registers

Each configured script is judged by its own two files: it is loadable if its template reads as text and
its data file is absent, blank or a mapping. Loading registers a new script for every loadable entry and
leaves all other identifiers alone, whatever the registry held before. The files may be those of any
surroundings in which only writing changes files and the clock does not go back.
-/

namespace PlaceholderScripts

/-- What a data file may be, with the values that it gives. -/
inductive Store.FileHolds : Except FileError String → Dict Datum → Prop
  | absent : FileHolds (.error .notFound) Dict.empty
  | blank {text : String} (h : Text.allBlank text.toList = true) : FileHolds (.ok text) Dict.empty
  | mapping {text : String} {values : Dict Datum} (h : Text.allBlank text.toList = false)
      (hread : Yaml.readData text = .ok values) : FileHolds (.ok text) values

theorem Store.valuesOfReply_eq_ok_iff {path : Path} {reply : Except FileError String}
    {values : Dict Datum} : valuesOfReply path reply = .ok values ↔ FileHolds reply values := by
  constructor
  · intro h
    cases reply with
    | error e =>
      cases e with
      | notFound =>
        obtain rfl := Except.ok.inj h
        exact .absent
      | _ => exact nomatch h
    | ok text =>
      rw [valuesOfReply, valuesOfText] at h
      split at h
      · next hblank =>
        obtain rfl := Except.ok.inj h
        exact .blank hblank
      · next hblank =>
        split at h
        · next hread =>
          obtain rfl := Except.ok.inj h
          exact .mapping (Bool.not_eq_true _ ▸ hblank) hread
        · exact nomatch h
  · intro h
    cases h with
    | absent => rfl
    | blank hblank => rw [valuesOfReply, valuesOfText, if_pos hblank]
    | mapping hblank hread =>
      rw [valuesOfReply, valuesOfText, if_neg (by rw [hblank]; exact Bool.false_ne_true), hread]

/-- The policy of a configured script. -/
def ScriptEntry.policy (now : Instant) (entry : ScriptEntry) : CachePolicy :=
  match entry.cache with
  | none => .disabled
  | some text =>
    match CachePolicy.parse now text with
    | .ok policy => policy
    | .error _ => .disabled

namespace Loader

variable (loader : Loader)

/-- A script as loading makes it: nothing is cached yet. -/
def loaded (identifier : String) (entry : ScriptEntry) (template : String) (values : Dict Datum)
    (now : Instant) : Definition where
  identifier := identifier
  template := template
  data := ⟨identifier, some (loader.dataFile identifier), values⟩
  cache := .new (entry.policy now)

theorem define_eq_loaded (identifier : String) (entry : ScriptEntry) (template : String)
    (values : Dict Datum) (now : Instant) :
    define now identifier entry template ⟨identifier, some (loader.dataFile identifier), values⟩ =
      loader.loaded identifier entry template values now := by
  unfold define loaded ScriptEntry.policy
  cases entry.cache with
  | none => rfl
  | some text =>
    simp only [Definition.applyCachePolicy]
    cases CachePolicy.parse now text <;> rfl

structure Loadable (files : Path → Except FileError String) (identifier : String)
    (entry : ScriptEntry) (template : String) (values : Dict Datum) : Prop where
  template : files (Path.join loader.scriptsDir entry.file) = .ok template
  data : Store.FileHolds (files (loader.dataFile identifier)) values

/-- The template and the values of a configured script, if they can be read. -/
def readScript? (files : Path → Except FileError String) (identifier : String)
    (entry : ScriptEntry) : Option (String × Dict Datum) :=
  match files (Path.join loader.scriptsDir entry.file),
    Store.valuesOfReply (loader.dataFile identifier) (files (loader.dataFile identifier)) with
  | .ok template, .ok values => some (template, values)
  | _, _ => none

variable {loader} {files : Path → Except FileError String} {identifier : String}
  {entry : ScriptEntry} {template : String} {values : Dict Datum}

theorem readScript?_eq_some_iff : loader.readScript? files identifier entry = some (template, values) ↔
    loader.Loadable files identifier entry template values := by
  unfold readScript?
  constructor
  · intro h
    split at h
    · next htemplate hdata =>
      obtain ⟨rfl, rfl⟩ := Prod.mk.inj (Option.some.inj h)
      exact ⟨htemplate, Store.valuesOfReply_eq_ok_iff.mp hdata⟩
    · exact nomatch h
  · intro h
    rw [h.template, Store.valuesOfReply_eq_ok_iff.mpr h.data]

theorem Loadable.unique {template' : String} {values' : Dict Datum}
    (h : loader.Loadable files identifier entry template values)
    (h' : loader.Loadable files identifier entry template' values') :
    template = template' ∧ values = values' := by
  have heq := (readScript?_eq_some_iff.mpr h).symm.trans (readScript?_eq_some_iff.mpr h')
  exact Prod.mk.inj (Option.some.inj heq)

variable (loader) (files) in
def loadable (entries : List (String × ScriptEntry)) : List (String × ScriptEntry) :=
  entries.filter fun e => (loader.readScript? files e.1 e.2).isSome

theorem loadable_cons_of_none {entries : List (String × ScriptEntry)}
    (h : loader.readScript? files identifier entry = none) :
    loader.loadable files ((identifier, entry) :: entries) = loader.loadable files entries :=
  List.filter_cons_of_neg (by rw [h]; exact Bool.false_ne_true)

theorem loadable_cons_of_some {entries : List (String × ScriptEntry)} {script : String × Dict Datum}
    (h : loader.readScript? files identifier entry = some script) :
    loader.loadable files ((identifier, entry) :: entries) =
      (identifier, entry) :: loader.loadable files entries :=
  List.filter_cons_of_pos (by rw [h]; rfl)

theorem mem_loadable_iff {entries : List (String × ScriptEntry)} :
    (identifier, entry) ∈ loader.loadable files entries ↔
      (identifier, entry) ∈ entries ∧
        ∃ template values, loader.Loadable files identifier entry template values := by
  rw [loadable, List.mem_filter, Option.isSome_iff_exists]
  constructor
  · rintro ⟨hmem, ⟨template, values⟩, hread⟩
    exact ⟨hmem, template, values, readScript?_eq_some_iff.mp hread⟩
  · rintro ⟨hmem, template, values, hloadable⟩
    exact ⟨hmem, _, readScript?_eq_some_iff.mpr hloadable⟩

theorem mem_loadable_cons {e : String × ScriptEntry} {entries : List (String × ScriptEntry)}
    (h : (identifier, entry) ∈ loader.loadable files entries) :
    (identifier, entry) ∈ loader.loadable files (e :: entries) := by
  rw [mem_loadable_iff] at h ⊢
  exact ⟨List.mem_cons_of_mem _ h.1, h.2⟩

/-- What loading entries leaves of a registry, with the times of its begin and end. -/
structure Loads (loader : Loader) (files : Path → Except FileError String)
    (entries : List (String × ScriptEntry)) (r r' : Registry) (begun ended : Instant) : Prop where
  length : r.scripts.length ≤ r'.scripts.length
  kept : ∀ handle, handle < r.scripts.length → r'.definition? handle = r.definition? handle
  registered : ∀ identifier entry template values, (identifier, entry) ∈ entries →
    loader.Loadable files identifier entry template values →
    ∃ handle now, r.scripts.length ≤ handle ∧ r'.handles.get? identifier = some handle ∧
      r'.definition? handle = some (loader.loaded identifier entry template values now) ∧
      begun.nanos ≤ now.nanos ∧ now.nanos ≤ ended.nanos
  others : ∀ identifier, (∀ entry, (identifier, entry) ∉ loader.loadable files entries) →
    r'.handles.get? identifier = r.handles.get? identifier

variable {entries : List (String × ScriptEntry)} {r r' : Registry} {begun later ended : Instant}

theorem loads_nil (r : Registry) (begun ended : Instant) : Loads loader files [] r r begun ended where
  length := Nat.le_refl _
  kept := fun _ _ => rfl
  registered := fun _ _ _ _ hmem => absurd hmem List.not_mem_nil
  others := fun _ _ => rfl

theorem Loads.since (h : Loads loader files entries r r' later ended)
    (hbegun : begun.nanos ≤ later.nanos) : Loads loader files entries r r' begun ended where
  length := h.length
  kept := h.kept
  registered := by
    intro identifier entry template values hmem hloadable
    obtain ⟨handle, now, hnew, hhandle, hd, hlater, hended⟩ :=
      h.registered identifier entry template values hmem hloadable
    exact ⟨handle, now, hnew, hhandle, hd, Nat.le_trans hbegun hlater, hended⟩
  others := h.others

theorem Loads.skip (h : Loads loader files entries r r' begun ended)
    (hskip : loader.readScript? files identifier entry = none) :
    Loads loader files ((identifier, entry) :: entries) r r' begun ended where
  length := h.length
  kept := h.kept
  registered := by
    intro identifier' entry' template values hmem hloadable
    have hread := readScript?_eq_some_iff.mpr hloadable
    rcases List.mem_cons.mp hmem with heq | hmem
    · obtain ⟨rfl, rfl⟩ := Prod.mk.inj heq
      rw [hskip] at hread
      exact nomatch hread
    · exact h.registered identifier' entry' template values hmem hloadable
  others := by
    intro identifier' hother
    exact h.others identifier' fun entry' hmem => hother entry' (mem_loadable_cons hmem)

/-- An entry that is loaded stands in the registry until the end, since no later one is for the same
identifier. -/
theorem Loads.register {now : Instant} (hread : loader.Loadable files identifier entry template values)
    (h : Loads loader files entries
      (r.register (loader.loaded identifier entry template values now)).2 r' later ended)
    (hdistinct : ∀ entry', (identifier, entry') ∉ entries)
    (hbegun : begun.nanos ≤ now.nanos) (hnow : now.nanos ≤ later.nanos)
    (hlater : later.nanos ≤ ended.nanos) :
    Loads loader files ((identifier, entry) :: entries) r r' begun ended := by
  generalize hd : loader.loaded identifier entry template values now = d at h
  have hidentifier : d.identifier = identifier := by rw [← hd]; rfl
  have hgrown : (r.register d).2.scripts.length = r.scripts.length + 1 :=
    List.length_append
  have hhandles : (r.register d).2.handles = r.handles.insert identifier r.scripts.length := by
    rw [← hidentifier]; rfl
  refine ⟨?_, ?_, ?_, ?_⟩
  · have hlength := h.length
    omega
  · intro handle hlt
    rw [h.kept handle (by omega), Registry.definition?_register hlt]
  · intro identifier' entry' template' values' hmem hloadable
    rcases List.mem_cons.mp hmem with heq | hmem
    · obtain ⟨rfl, rfl⟩ := Prod.mk.inj heq
      obtain ⟨rfl, rfl⟩ := hread.unique hloadable
      have hstays : r'.handles.get? identifier' = some r.scripts.length := by
        rw [h.others identifier' fun entry' hmem => hdistinct entry' (mem_loadable_iff.mp hmem).1,
          hhandles, Dict.get?_insert, if_pos rfl]
      refine ⟨r.scripts.length, now, Nat.le_refl _, hstays, ?_, hbegun, Nat.le_trans hnow hlater⟩
      rw [h.kept _ (by omega), Registry.definition?_register_self, hd]
    · obtain ⟨handle, now', hnew, hhandle, hd', hlater', hended⟩ :=
        h.registered identifier' entry' template' values' hmem hloadable
      refine ⟨handle, now', by omega, hhandle, hd', ?_, hended⟩
      exact Nat.le_trans hbegun (Nat.le_trans hnow hlater')
  · intro identifier' hother
    have hne : identifier' ≠ identifier := by
      rintro rfl
      exact hother entry (mem_loadable_iff.mpr ⟨List.mem_cons_self, template, values, hread⟩)
    rw [h.others, hhandles, Dict.get?_insert, if_neg hne]
    exact fun entry' hmem => hother entry' (mem_loadable_cons hmem)

/-- The configuration has an entry for the identifier whose files can be read. -/
def IsLoadable (loader : Loader) (files : Path → Except FileError String)
    (configuration : Configuration) (identifier : String) : Prop :=
  ∃ entry template values, configuration.get? identifier = some entry ∧
    loader.Loadable files identifier entry template values

theorem isLoadable_iff_mem {configuration : Configuration} :
    loader.IsLoadable files configuration identifier ↔
      identifier ∈ (loader.loadable files configuration.entries).map Prod.fst := by
  rw [List.mem_map]
  constructor
  · rintro ⟨entry, template, values, hentry, hloadable⟩
    have hmem := Dict.get?_eq_some_iff.mp hentry
    exact ⟨(identifier, entry), mem_loadable_iff.mpr ⟨hmem, template, values, hloadable⟩, rfl⟩
  · rintro ⟨⟨_, entry⟩, hmem, rfl⟩
    obtain ⟨hmem, template, values, hloadable⟩ := mem_loadable_iff.mp hmem
    exact ⟨entry, template, values, Dict.get?_eq_some_iff.mpr hmem, hloadable⟩

theorem nodup_loadable (configuration : Configuration) :
    ((loader.loadable files configuration.entries).map Prod.fst).Nodup :=
  configuration.nodup_keys.sublist (List.filter_sublist.map _)

structure LoadsConfiguration (loader : Loader) (files : Path → Except FileError String)
    (configuration : Configuration) (r r' : Registry) (begun ended : Instant) : Prop where
  registered : ∀ identifier entry template values, configuration.get? identifier = some entry →
    loader.Loadable files identifier entry template values →
    ∃ handle now, r.scripts.length ≤ handle ∧ r'.handles.get? identifier = some handle ∧
      r'.get? identifier = some (loader.loaded identifier entry template values now) ∧
      begun.nanos ≤ now.nanos ∧ now.nanos ≤ ended.nanos
  others : ∀ identifier, ¬ loader.IsLoadable files configuration identifier →
    r'.handles.get? identifier = r.handles.get? identifier ∧
      r'.get? identifier = r.get? identifier

theorem Loads.loadsConfiguration {configuration : Configuration}
    (h : Loads loader files configuration.entries r r' begun ended) :
    LoadsConfiguration loader files configuration r r' begun ended where
  registered := by
    intro identifier entry template values hentry hloadable
    obtain ⟨handle, now, hnew, hhandle, hd, hbegun, hended⟩ :=
      h.registered identifier entry template values (Dict.get?_eq_some_iff.mp hentry) hloadable
    exact ⟨handle, now, hnew, hhandle, (Registry.get?_of_handle hhandle).trans hd, hbegun, hended⟩
  others := by
    intro identifier hother
    have hhandles : r'.handles.get? identifier = r.handles.get? identifier := by
      refine h.others identifier fun entry hmem => hother ?_
      exact isLoadable_iff_mem.mpr (List.mem_map.mpr ⟨_, hmem, rfl⟩)
    refine ⟨hhandles, ?_⟩
    rw [Registry.get?, Registry.get?, hhandles]
    -- a handle from before the load still stands for the same script
    cases hold : r.handles.get? identifier with
    | none => rfl
    | some handle => exact h.kept handle (Registry.lt_length_of_handle hold)

section FromEmpty

variable {configuration : Configuration}
  (h : LoadsConfiguration loader files configuration r r' begun ended)
  (hempty : ∀ identifier, r.get? identifier = none)

include h hempty

/-- If nothing was registered before, all that is in the registry was loaded. -/
theorem LoadsConfiguration.exists_loaded {d' : Definition} (hd' : r'.get? identifier = some d') :
    ∃ entry template values now, configuration.get? identifier = some entry ∧
      loader.Loadable files identifier entry template values ∧
      d' = loader.loaded identifier entry template values now ∧
      begun.nanos ≤ now.nanos ∧ now.nanos ≤ ended.nanos := by
  by_cases hloadable : loader.IsLoadable files configuration identifier
  · obtain ⟨entry, template, values, hentry, hloadable⟩ := hloadable
    obtain ⟨_, now, _, _, hd, hbegun, hended⟩ :=
      h.registered identifier entry template values hentry hloadable
    have heq : d' = loader.loaded identifier entry template values now :=
      Option.some.inj (hd'.symm.trans hd)
    exact ⟨entry, template, values, now, hentry, hloadable, heq, hbegun, hended⟩
  · have hsame := (h.others identifier hloadable).2
    rw [hd', hempty] at hsame
    exact nomatch hsame

theorem LoadsConfiguration.exists_get?_iff (identifier : String) :
    (∃ d', r'.get? identifier = some d') ↔ loader.IsLoadable files configuration identifier := by
  constructor
  · rintro ⟨d', hd'⟩
    obtain ⟨entry, template, values, _, hentry, hloadable, _⟩ := h.exists_loaded hempty hd'
    exact ⟨entry, template, values, hentry, hloadable⟩
  · rintro ⟨entry, template, values, hentry, hloadable⟩
    obtain ⟨_, _, _, _, hd, _⟩ := h.registered identifier entry template values hentry hloadable
    exact ⟨_, hd⟩

theorem LoadsConfiguration.size_eq :
    (loader.loadable files configuration.entries).length = r'.size := by
  rw [Registry.size, ← Dict.length_keys, ← List.length_map Prod.fst]
  refine ((List.perm_ext_iff_of_nodup (nodup_loadable configuration)
    r'.handles.nodup_keys).mpr fun identifier => ?_).length_eq
  rw [← isLoadable_iff_mem, ← h.exists_get?_iff hempty, Registry.exists_get?_iff,
    Dict.mem_keys_iff]

end FromEmpty

section Runs

variable {σ : Type} {reply : σ → (q : Request) → q.Reply × σ}
  {texts : σ → Path → Except FileError String} {time : σ → Instant}

theorem run_load_store (hfiles : SteadyFiles reply texts) (identifier : String) (path : Path) (s : σ) :
    Dialogue.run reply (Store.load identifier path) s =
      ((Store.valuesOfReply path (texts s path)).map fun values => ⟨identifier, some path, values⟩,
        (reply s (.readText path)).2) := by
  rw [Store.load, Store.read, Dialogue.bind_eq, Dialogue.run_bind, Dialogue.bind_eq,
    Dialogue.run_bind, Program.run_readText, hfiles.reading, Dialogue.pure_eq_done, Dialogue.run_done]
  cases Store.valuesOfReply path (texts s path) <;> rfl

/-- A store takes the values of its file, if they can be read, and otherwise keeps its own. -/
theorem run_reload_store (hfiles : SteadyFiles reply texts) {store : Store} {path : Path}
    (hpath : store.path = some path) (s : σ) :
    Dialogue.run reply store.reload s =
      (match Store.valuesOfReply path (texts s path) with
        | .ok values => (.ok (), { store with values })
        | .error e => (.error e, store), (reply s (.readText path)).2) := by
  rw [Store.reload, hpath]
  simp only [Store.read, Dialogue.bind_eq, Dialogue.run_bind, Program.run_readText, hfiles.reading,
    Dialogue.pure_eq_done, Dialogue.run_done]
  cases Store.valuesOfReply path (texts s path) <;> simp [hpath]

/-- Loading a script reads its two files, and asks for the time if both can be read. -/
theorem run_loadDefinition (hfiles : SteadyFiles reply texts) (hclock : ForwardClock reply time)
    (loader : Loader) (identifier : String) (entry : ScriptEntry) (s : σ) :
    let (result, s') := Dialogue.run reply (loader.loadDefinition identifier entry) s
    texts s' = texts s ∧ match loader.readScript? (texts s) identifier entry with
      | none => result = none
      | some (template, values) => ∃ now,
        result = some (loader.loaded identifier entry template values now) ∧
          (time s).nanos ≤ now.nanos ∧ now.nanos ≤ (time s').nanos := by
  have htemplate := hfiles.steady s (.readText (Path.join loader.scriptsDir entry.file)) id
  have hread := hfiles.reading s (Path.join loader.scriptsDir entry.file)
  have hforward := hclock.forward s (.readText (Path.join loader.scriptsDir entry.file))
  rw [loadDefinition, Dialogue.bind_eq, Dialogue.run_bind, Program.run_readText, hread, readScript?]
  generalize (reply s (.readText (Path.join loader.scriptsDir entry.file))).2 = s₁ at htemplate hforward ⊢
  cases texts s (Path.join loader.scriptsDir entry.file) with
  | error e => exact ⟨htemplate, rfl⟩
  | ok template =>
    have hdata := hfiles.steady s₁ (.readText (loader.dataFile identifier)) id
    have hforward' := hclock.forward s₁ (.readText (loader.dataFile identifier))
    simp only [Dialogue.bind_eq, Dialogue.run_bind, run_load_store hfiles, htemplate]
    generalize (reply s₁ (.readText (loader.dataFile identifier))).2 = s₂ at hdata hforward' ⊢
    cases Store.valuesOfReply (loader.dataFile identifier) (texts s (loader.dataFile identifier)) with
    | error e => exact ⟨hdata.trans htemplate, rfl⟩
    | ok values =>
      have hforward'' := hclock.forward s₂ .now
      refine ⟨(hfiles.steady s₂ .now id).trans (hdata.trans htemplate), time (reply s₂ .now).2, ?_⟩
      refine ⟨?_, Nat.le_trans hforward (Nat.le_trans hforward' hforward''), Nat.le_refl _⟩
      simp only [Except.map, Dialogue.run_bind, Program.run_now, hclock.reading, define_eq_loaded,
        Dialogue.pure_eq_done, Dialogue.run_done]

/-- Each entry is loaded on its own, in a single walk along the entries. -/
theorem run_loadEntries (hfiles : SteadyFiles reply texts) (hclock : ForwardClock reply time)
    (loader : Loader) (entries : List (String × ScriptEntry)) (hdistinct : (entries.map Prod.fst).Nodup)
    (count : Nat) (r : Registry) (s : σ) :
    let ((count', r'), s') := Dialogue.run reply (loader.loadEntries entries count r) s
    texts s' = texts s ∧ count' = count + (loader.loadable (texts s) entries).length ∧
      Loads loader (texts s) entries r r' (time s) (time s') := by
  induction entries generalizing count r s with
  | nil => exact ⟨rfl, rfl, loads_nil r _ _⟩
  | cons e rest ih =>
    obtain ⟨identifier, entry⟩ := e
    obtain ⟨hhead, hrest⟩ := List.nodup_cons.mp hdistinct
    have hdefinition := run_loadDefinition hfiles hclock loader identifier entry s
    have hforward := hclock.run (loader.loadDefinition identifier entry) s
    rw [loadEntries, Dialogue.bind_eq, Dialogue.run_bind]
    generalize Dialogue.run reply (loader.loadDefinition identifier entry) s = outcome
      at hdefinition hforward ⊢
    obtain ⟨result, s₁⟩ := outcome
    obtain ⟨htexts, hresult⟩ := hdefinition
    cases hread : loader.readScript? (texts s) identifier entry with
    | none =>
      rw [hread] at hresult
      obtain rfl := hresult
      obtain ⟨htexts', hcount, hloads⟩ := ih hrest count r s₁
      rw [htexts] at htexts' hcount hloads
      rw [loadable_cons_of_none hread]
      exact ⟨htexts', hcount, (hloads.since hforward).skip hread⟩
    | some script =>
      obtain ⟨template, values⟩ := script
      rw [hread] at hresult
      obtain ⟨now, rfl, hbegun, hnow⟩ := hresult
      have hended := hclock.run (loader.loadEntries rest (count + 1)
        (r.register (loader.loaded identifier entry template values now)).2) s₁
      obtain ⟨htexts', hcount, hloads⟩ := ih hrest (count + 1)
        (r.register (loader.loaded identifier entry template values now)).2 s₁
      rw [htexts] at htexts' hcount hloads
      rw [loadable_cons_of_some hread]
      refine ⟨htexts', ?_, ?_⟩
      · rw [hcount, List.length_cons]
        omega
      · refine hloads.register (readScript?_eq_some_iff.mp hread) ?_ hbegun hnow hended
        intro entry' hmem
        exact hhead (List.mem_map.mpr ⟨(identifier, entry'), hmem, rfl⟩)

theorem run_loadConfiguration (hfiles : SteadyFiles reply texts) (path : Path) (s : σ) :
    Dialogue.run reply (Configuration.load path) s =
      (Configuration.ofReply path (texts s path), (reply s (.readText path)).2) := by
  rw [Configuration.load, Dialogue.bind_eq, Dialogue.run_bind, Program.run_readText, hfiles.reading]
  rfl

theorem run_load (hfiles : SteadyFiles reply texts) (hclock : ForwardClock reply time)
    (loader : Loader) (r : Registry) (s : σ) :
    let ((result, r'), s') := Dialogue.run reply (loader.load r) s
    texts s' = texts s ∧
      match Configuration.ofReply loader.configPath (texts s loader.configPath) with
      | .error e => result = .error e ∧ r' = r
      | .ok configuration =>
        result = .ok (loader.loadable (texts s) configuration.entries).length ∧
          Loads loader (texts s) configuration.entries r r' (time s) (time s') := by
  have htexts := hfiles.steady s (.readText loader.configPath) id
  have hforward := hclock.forward s (.readText loader.configPath)
  rw [load, Dialogue.bind_eq, Dialogue.run_bind, run_loadConfiguration hfiles]
  generalize (reply s (.readText loader.configPath)).2 = s₁ at htexts hforward ⊢
  cases Configuration.ofReply loader.configPath (texts s loader.configPath) with
  | error e => exact ⟨htexts, rfl, rfl⟩
  | ok configuration =>
    have hentries := run_loadEntries hfiles hclock loader configuration.entries
      configuration.nodup_keys 0 r s₁
    simp only [Dialogue.bind_eq, Dialogue.run_bind]
    generalize Dialogue.run reply (loader.loadEntries configuration.entries 0 r) s₁ = outcome
      at hentries ⊢
    obtain ⟨⟨count, r'⟩, s'⟩ := outcome
    obtain ⟨htexts', hcount, hloads⟩ := hentries
    rw [htexts] at htexts' hcount hloads
    refine ⟨htexts', ?_, hloads.since hforward⟩
    rw [hcount, Nat.zero_add]
    rfl

/-- Loading registers a new script for every configured identifier whose files can be read, leaves all
others as they were, and counts the former. If the configuration cannot be read, nothing is changed. -/
theorem load_registers_loadable (hfiles : SteadyFiles reply texts) (hclock : ForwardClock reply time)
    (loader : Loader) (r : Registry) (s : σ) :
    let ((result, r'), s') := Dialogue.run reply (loader.load r) s
    texts s' = texts s ∧
      match Configuration.ofReply loader.configPath (texts s loader.configPath) with
      | .error e => result = .error e ∧ r' = r
      | .ok configuration =>
        LoadsConfiguration loader (texts s) configuration r r' (time s) (time s') ∧
          (∀ handle, handle < r.scripts.length → r'.definition? handle = r.definition? handle) ∧
          ∃ loaded : List String, result = .ok loaded.length ∧ loaded.Nodup ∧
            ∀ identifier, identifier ∈ loaded ↔
              loader.IsLoadable (texts s) configuration identifier := by
  have hload := run_load hfiles hclock loader r s
  generalize Dialogue.run reply (loader.load r) s = outcome at hload ⊢
  obtain ⟨⟨result, r'⟩, s'⟩ := outcome
  obtain ⟨htexts, hload⟩ := hload
  refine ⟨htexts, ?_⟩
  cases hconfiguration : Configuration.ofReply loader.configPath (texts s loader.configPath) with
  | error e =>
    rw [hconfiguration] at hload
    exact hload
  | ok configuration =>
    rw [hconfiguration] at hload
    obtain ⟨hresult, hloads⟩ := hload
    refine ⟨hloads.loadsConfiguration, hloads.kept, _, ?_, nodup_loadable configuration,
      fun identifier => isLoadable_iff_mem.symm⟩
    rw [hresult, List.length_map]

end Runs

/-- Two configured scripts, of which only the first has a template. -/
def halfWritten : World where
  files :=
    { nodes :=
        [(["scripts.yml"], .file (.text "a:\n  file: a.js\n  cache: STATIC\nb:\n  file: b.js\n")),
          (["scripts"], .directory), (["scripts", "a.js"], .file (.text "1 + 1"))]
      working := [] }
  clock := .zero
  service := fun _ _ text => .ok text

/-- The first script is registered, and the second stays the script that it was. -/
theorem load_registers_loadable_halfWritten :
    let loader : Loader := .new "scripts.yml" "scripts"
    let r := (({} : Registry).register (Definition.ephemeral "b" "2")).2
    SteadyFiles World.reply World.texts ∧ ForwardClock World.reply World.clock ∧
      ∃ result r' s', halfWritten.run (loader.load r) = ((result, r'), s') ∧
        (∃ now, r'.get? "a" =
          some (loader.loaded "a" ⟨"a.js", some "STATIC"⟩ "1 + 1" Dict.empty now)) ∧
        r'.get? "b" = some (Definition.ephemeral "b" "2") := by
  intro loader r
  refine ⟨World.steadyFiles, World.forwardClock, ?_⟩
  have hlaw := load_registers_loadable World.steadyFiles World.forwardClock loader r halfWritten
  have hconfiguration : Configuration.ofReply loader.configPath (halfWritten.texts loader.configPath) =
      .ok (.ofList [("a", ⟨"a.js", some "STATIC"⟩), ("b", ⟨"b.js", none⟩)]) := by
    decide +kernel
  rw [hconfiguration] at hlaw
  have hloadable : loader.Loadable halfWritten.texts "a" ⟨"a.js", some "STATIC"⟩ "1 + 1"
      Dict.empty := by
    have hdata : halfWritten.texts (loader.dataFile "a") = .error .notFound := by decide +kernel
    refine ⟨by decide +kernel, ?_⟩
    rw [hdata]
    exact .absent
  generalize hrun : Dialogue.run World.reply (loader.load r) halfWritten = outcome at hlaw
  obtain ⟨⟨result, r'⟩, s'⟩ := outcome
  obtain ⟨_, hloads, _⟩ := hlaw
  refine ⟨result, r', s', hrun, ?_, ?_⟩
  · obtain ⟨_, now, _, _, hd, _⟩ := hloads.registered "a" ⟨"a.js", some "STATIC"⟩ "1 + 1" Dict.empty
      (by decide +kernel) hloadable
    exact ⟨now, hd⟩
  · refine (hloads.others "b" ?_).2
    rw [isLoadable_iff_mem]
    decide +kernel

end Loader

end PlaceholderScripts
