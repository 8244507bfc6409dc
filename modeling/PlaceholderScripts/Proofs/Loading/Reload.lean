import PlaceholderScripts.Proofs.Loading.Load
import PlaceholderScripts.Proofs.Outcomes

/-!
# What a reload keeps

A reload saves the data of all scripts, drops the scripts and loads from what the files then hold. The data
file of a script has a name of its own inside of one directory, so no script overwrites what another has
saved, and a script that is configured before and after goes on with the values that were saved for it.
-/

namespace PlaceholderScripts

namespace Yaml

theorem colon_mem_writeKey (indent : Nat) (key : String) : ':' ∈ writeKey indent key := by
  unfold writeKey
  split <;> simp

theorem allBlank_writeMap (entries : List (String × Datum)) :
    Text.allBlank (writeMap entries).toList = false := by
  have hchar : ∃ c ∈ (writeMap entries).toList, Text.isBlank c = false := by
    cases entries with
    | nil => exact ⟨'\x7b', by simp [writeMap], rfl⟩
    | cons entry rest =>
      refine ⟨':', ?_, rfl⟩
      obtain ⟨key, value⟩ := entry
      have hkey := colon_mem_writeKey 0 key
      simp only [writeMap, String.toList_ofList, writeEntries]
      exact List.mem_append_left _ (List.mem_append_left _ (List.mem_append_right _ hkey))
  obtain ⟨c, hmem, hblank⟩ := hchar
  rw [Text.allBlank, List.all_eq_false]
  exact ⟨c, hmem, by rw [hblank]; exact Bool.false_ne_true⟩

end Yaml

namespace Loader

variable (loader : Loader)

/-- A store of this loader, in the data file of its script. -/
structure Owns (store : Store) : Prop where
  path : store.path = some (loader.dataFile store.identifier)
  simple : '/' ∉ store.identifier.toList

/-- A definition as this loader makes it, with whatever values and cached results it has by now. -/
structure Made (identifier : String) (d : Definition) : Prop where
  name : d.identifier = identifier
  owner : d.data.identifier = identifier
  data : loader.Owns d.data

theorem made_loaded {identifier : String} (hsimple : '/' ∉ identifier.toList) (entry : ScriptEntry)
    (template : String) (values : Dict Datum) (now : Instant) :
    loader.Made identifier (loader.loaded identifier entry template values now) :=
  ⟨rfl, rfl, rfl, hsimple⟩

theorem isName_dataFile {identifier : String} (h : '/' ∉ identifier.toList) :
    Path.IsName (identifier ++ "_data.yml") := by
  have hlength : 9 ≤ (identifier ++ "_data.yml").length := by
    rw [String.length_append]
    exact Nat.le_add_left _ _
  have hne : ∀ other : String, other.length < 9 → identifier ++ "_data.yml" ≠ other := by
    rintro other hshort rfl
    omega
  refine ⟨?_, hne "" (by decide), hne "." (by decide), hne ".." (by decide)⟩
  rw [String.toList_append, List.mem_append, not_or]
  exact ⟨h, by decide⟩

theorem dataFileName_inj {a b : String} (h : a ++ "_data.yml" = b ++ "_data.yml") : a = b := by
  have hchars := congrArg String.toList h
  rw [String.toList_append, String.toList_append] at hchars
  exact String.toList_inj.mp (List.append_cancel_right hchars)

end Loader

section Saves

variable {σ : Type} {reply : σ → (q : Request) → q.Reply × σ}
  {texts : σ → Path → Except FileError String} {time : σ → Instant} {loader : Loader}

variable (reply) in
/-- A save ends where the directories could not be made, or behind the writing of the file. -/
theorem Store.run_save_cases {store : Store} {path : Path} (hpath : store.path = some path) (s : σ) :
    let s₁ := (reply s (.createParents path)).2
    let s₂ := (reply s₁ (.writeText path store.text)).2
    (∃ e, Dialogue.run reply store.save s = (.error e, s₁)) ∨
      (∃ e, Dialogue.run reply store.save s = (.error e, s₂)) ∨
      ((reply s₁ (.writeText path store.text)).1 = .ok () ∧
        Dialogue.run reply store.save s = (.ok (), s₂)) := by
  intro s₁ s₂
  generalize hsave : Dialogue.run reply store.save s = outcome
  rw [Store.save, hpath] at hsave
  simp only [Dialogue.bind_eq, Dialogue.run_bind, Program.run_createParents] at hsave
  split at hsave
  · exact .inl ⟨_, hsave.symm⟩
  · simp only [Dialogue.run_bind, Program.run_writeText] at hsave
    split at hsave
    · exact .inr (.inl ⟨_, hsave.symm⟩)
    · next hwritten => exact .inr (.inr ⟨hwritten, hsave.symm⟩)

theorem Store.texts_save (hdisk : Disk reply texts) {store : Store} {path : Path}
    (hpath : store.path = some path) {s : σ}
    (h : (Dialogue.run reply store.save s).1 = .ok ()) :
    texts (Dialogue.run reply store.save s).2 path = .ok store.text := by
  rcases Store.run_save_cases reply hpath s with ⟨e, hrun⟩ | ⟨e, hrun⟩ | ⟨hwritten, hrun⟩
  · rw [hrun] at h
    exact nomatch h
  · rw [hrun] at h
    exact nomatch h
  · rw [hrun]
    exact hdisk.written _ path store.text hwritten

/-- Saving a store leaves what the other stores of the loader have saved. -/
theorem Loader.Owns.texts_save (hdisk : Disk reply texts) {store : Store} (h : loader.Owns store)
    {identifier : String} (hsimple : '/' ∉ identifier.toList) (hne : store.identifier ≠ identifier)
    {s : σ} {text : String} (hread : texts s (loader.dataFile identifier) = .ok text) :
    texts (Dialogue.run reply store.save s).2 (loader.dataFile identifier) = .ok text := by
  have hmade := hdisk.parents s (loader.dataFile store.identifier) _ text hread
  have hsibling := hdisk.siblings (reply s (.createParents (loader.dataFile store.identifier))).2
    loader.dataDir (store.identifier ++ "_data.yml") (identifier ++ "_data.yml") store.text
    (Loader.isName_dataFile h.simple) (Loader.isName_dataFile hsimple)
    fun heq => hne (Loader.dataFileName_inj heq)
  rcases Store.run_save_cases reply h.path s with ⟨e, hrun⟩ | ⟨e, hrun⟩ | ⟨_, hrun⟩
  · rw [hrun]
    exact hmade
  · rw [hrun]
    exact hsibling.trans hmade
  · rw [hrun]
    exact hsibling.trans hmade

namespace Registry

variable (reply) in
/-- What comes of saving stores one after the other. -/
def saves : List Store → σ → List (Store × Except DataError Unit)
  | [], _ => []
  | store :: rest, s =>
    (store, (Dialogue.run reply store.save s).1) :: saves rest (Dialogue.run reply store.save s).2

variable (reply) in
def flushes (r : Registry) (s : σ) : List (Store × Except DataError Unit) :=
  saves reply (r.registered.map Definition.data) s

variable (reply) in
def afterFlush (r : Registry) (s : σ) : σ := (Dialogue.run reply r.saveAll s).2

theorem run_saveStores_cons (store : Store) (rest : List Store) (s : σ) :
    Dialogue.run reply (saveStores (store :: rest)) s =
      let (result, s₁) := Dialogue.run reply store.save s
      let (failures, s₂) := Dialogue.run reply (saveStores rest) s₁
      (match result with
        | .ok () => failures
        | .error _ => failures + 1, s₂) := by
  rw [saveStores, Dialogue.bind_eq, Dialogue.run_bind]
  rcases Dialogue.run reply store.save s with ⟨failed | ⟨⟩, s₁⟩
  · simp only [Dialogue.bind_eq, Dialogue.run_bind]
    rfl
  · rfl

theorem run_saveStores (stores : List Store) (s : σ) :
    (Dialogue.run reply (saveStores stores) s).1 =
      (saves reply stores s).countP fun saved => saved.2.toOption.isNone := by
  induction stores generalizing s with
  | nil => rfl
  | cons store rest ih =>
    rw [run_saveStores_cons, saves, List.countP_cons]
    simp only [ih]
    rcases Dialogue.run reply store.save s with ⟨failed | ⟨⟩, s₁⟩ <;> rfl

/-- What was read back from a file is so after other stores are saved. -/
theorem texts_saveStores_of_ne (hdisk : Disk reply texts) {stores : List Store}
    (howns : ∀ store ∈ stores, loader.Owns store) {identifier : String}
    (hsimple : '/' ∉ identifier.toList) (hne : ∀ store ∈ stores, store.identifier ≠ identifier)
    {s : σ} {text : String} (hread : texts s (loader.dataFile identifier) = .ok text) :
    texts (Dialogue.run reply (saveStores stores) s).2 (loader.dataFile identifier) = .ok text := by
  induction stores generalizing s with
  | nil => exact hread
  | cons store rest ih =>
    rw [run_saveStores_cons]
    refine ih (fun st hst => howns st (List.mem_cons_of_mem _ hst))
      (fun st hst => hne st (List.mem_cons_of_mem _ hst)) ?_
    exact (howns store List.mem_cons_self).texts_save hdisk hsimple (hne store List.mem_cons_self) hread

/-- After all stores are saved, each one whose save succeeded reads back from its file. -/
theorem texts_saveStores (hdisk : Disk reply texts) {stores : List Store}
    (howns : ∀ store ∈ stores, loader.Owns store)
    (hdistinct : (stores.map Store.identifier).Nodup) {s : σ} {store : Store}
    (hsaved : (store, .ok ()) ∈ saves reply stores s) :
    texts (Dialogue.run reply (saveStores stores) s).2 (loader.dataFile store.identifier) =
      .ok store.text := by
  induction stores generalizing s with
  | nil => exact absurd hsaved List.not_mem_nil
  | cons first rest ih =>
    obtain ⟨hfirst, hrest⟩ := List.nodup_cons.mp hdistinct
    have howns' : ∀ st ∈ rest, loader.Owns st := fun st hst => howns st (List.mem_cons_of_mem _ hst)
    rw [run_saveStores_cons]
    rcases List.mem_cons.mp hsaved with heq | hlater
    · obtain ⟨rfl, hok⟩ := Prod.mk.inj heq
      have hfirstOwns := howns store List.mem_cons_self
      have hwritten := Store.texts_save hdisk hfirstOwns.path hok.symm
      refine texts_saveStores_of_ne hdisk howns' hfirstOwns.simple ?_ hwritten
      intro st hst hidentifier
      exact hfirst (List.mem_map.mpr ⟨st, hst, hidentifier⟩)
    · exact ih howns' hrest hlater

theorem registered_map_eq_identifiers {r : Registry} {name : Definition → String}
    (h : ∀ identifier d, r.get? identifier = some d → name d = identifier) :
    r.registered.map name = r.identifiers := by
  have hentries : ∀ e ∈ r.handles.entries, ∃ d, r.definition? e.2 = some d ∧ name d = e.1 := by
    intro e he
    have hhandle : r.handles.get? e.1 = some e.2 := Dict.get?_eq_some_iff.mpr he
    obtain ⟨d, hd⟩ := exists_get?_iff.mpr ⟨e.2, hhandle⟩
    exact ⟨d, (get?_of_handle hhandle).symm.trans hd, h e.1 d hd⟩
  rw [registered, identifiers, Dict.keys]
  revert hentries
  induction r.handles.entries with
  | nil => exact fun _ => rfl
  | cons e rest ih =>
    intro hentries
    obtain ⟨d, hd, hname⟩ := hentries e List.mem_cons_self
    have hrest := ih fun e he => hentries e (List.mem_cons_of_mem _ he)
    have hfirst : (e :: rest).filterMap (fun e => r.definition? e.2) =
        d :: rest.filterMap fun e => r.definition? e.2 := List.filterMap_cons_some hd
    rw [hfirst, List.map_cons, List.map_cons, hname, hrest]

end Registry

/-- A script whose data was saved by the flush of a registry reads back from its file. -/
theorem Loader.texts_saveAll (hdisk : Disk reply texts) {r : Registry}
    (hmade : ∀ identifier d, r.get? identifier = some d → loader.Made identifier d)
    {identifier : String} {d : Definition} (hd : r.get? identifier = some d) {s : σ}
    (hsaved : (d.data, .ok ()) ∈ r.flushes reply s) :
    texts (r.afterFlush reply s) (loader.dataFile identifier) = .ok d.data.text := by
  have howns : ∀ store ∈ r.registered.map Definition.data, loader.Owns store := by
    intro store hstore
    obtain ⟨d, hd, rfl⟩ := List.mem_map.mp hstore
    obtain ⟨identifier, hd⟩ := Registry.mem_registered_iff.mp hd
    exact (hmade identifier d hd).data
  have hdistinct : ((r.registered.map Definition.data).map Store.identifier).Nodup := by
    have hnames : r.registered.map (Store.identifier ∘ Definition.data) = r.identifiers :=
      Registry.registered_map_eq_identifiers fun identifier d hd => (hmade identifier d hd).owner
    rw [List.map_map, hnames]
    exact r.handles.nodup_keys
  have hread := Registry.texts_saveStores hdisk howns hdistinct hsaved
  rwa [(hmade identifier d hd).owner] at hread

/-- What can be loaded for a script after a flush are the values that the flush saved. -/
theorem Loader.Loadable.values_eq (hdisk : Disk reply texts) {r : Registry}
    (hmade : ∀ identifier d, r.get? identifier = some d → loader.Made identifier d)
    {identifier : String} {d : Definition} (hd : r.get? identifier = some d) {s : σ}
    (hsaved : (d.data, .ok ()) ∈ r.flushes reply s)
    (hreads : Yaml.readData d.data.text = .ok d.data.values) {entry : ScriptEntry}
    {template : String} {values : Dict Datum}
    (h : loader.Loadable (texts (r.afterFlush reply s)) identifier entry template values) :
    values = d.data.values := by
  have hfile := h.data
  rw [texts_saveAll hdisk hmade hd hsaved] at hfile
  cases hfile with
  | blank hblank =>
    have hwritten := Yaml.allBlank_writeMap d.data.values.entries
    exact nomatch hwritten.symm.trans hblank
  | mapping _ hvalues => exact Except.ok.inj (hvalues.symm.trans hreads)

/-- A reload rebuilds the registry from the files as they are after the flush: what is registered then
is what can be loaded, and a script that was registered before goes on with the values that the flush
saved. If the configuration cannot be read, nothing is registered. -/
theorem Loader.reload_rebuilds (hdisk : Disk reply texts) (hclock : ForwardClock reply time)
    (loader : Loader) (r : Registry) (s : σ)
    (hmade : ∀ identifier d, r.get? identifier = some d → loader.Made identifier d)
    (hreads : ∀ identifier d, r.get? identifier = some d →
      Yaml.readData d.data.text = .ok d.data.values) :
    let after := Dialogue.run reply (loader.reload r) s
    let r' := after.1.2
    texts after.2 = texts (r.afterFlush reply s) ∧
      match Configuration.ofReply loader.configPath
        (texts (r.afterFlush reply s) loader.configPath) with
      | .error e => after.1 = (.error e, r.clear)
      | .ok configuration =>
        after.1.1 = .ok r'.size ∧
          (∀ identifier, (∃ d', r'.get? identifier = some d') ↔
            loader.IsLoadable (texts (r.afterFlush reply s)) configuration identifier) ∧
          (∀ identifier d', r'.get? identifier = some d' →
            ∃ entry template values now, configuration.get? identifier = some entry ∧
              loader.Loadable (texts (r.afterFlush reply s)) identifier entry template values ∧
              d' = loader.loaded identifier entry template values now ∧
              (time s).nanos ≤ now.nanos ∧ now.nanos ≤ (time after.2).nanos) ∧
          ∀ identifier d d', r.get? identifier = some d → r'.get? identifier = some d' →
            (d.data, .ok ()) ∈ r.flushes reply s → d'.data.values = d.data.values := by
  have hforward : (time s).nanos ≤ (time (r.afterFlush reply s)).nanos := hclock.run r.saveAll s
  have hload := run_load hdisk.toSteadyFiles hclock loader r.clear (r.afterFlush reply s)
  have hreload : Dialogue.run reply (loader.reload r) s =
      Dialogue.run reply (loader.load r.clear) (r.afterFlush reply s) := by
    rw [reload, Dialogue.bind_eq, Dialogue.run_bind, Registry.afterFlush]
  rw [hreload]
  generalize Dialogue.run reply (loader.load r.clear) (r.afterFlush reply s) = after at hload ⊢
  obtain ⟨⟨result, r'⟩, s'⟩ := after
  obtain ⟨htexts, hload⟩ := hload
  refine ⟨htexts, ?_⟩
  cases hconfiguration : Configuration.ofReply loader.configPath
    (texts (r.afterFlush reply s) loader.configPath) with
  | error e =>
    rw [hconfiguration] at hload
    exact Prod.ext hload.1 hload.2
  | ok configuration =>
    rw [hconfiguration] at hload
    obtain ⟨hresult, hloads⟩ := hload
    have hloads := (hloads.since hforward).loadsConfiguration
    have hempty : ∀ identifier, r.clear.get? identifier = none := Registry.get?_clear r
    refine ⟨?_, hloads.exists_get?_iff hempty, fun _ _ hd' => hloads.exists_loaded hempty hd', ?_⟩
    · exact hresult.trans (congrArg Except.ok (hloads.size_eq hempty))
    · intro identifier d d' hd hd' hsaved
      obtain ⟨_, _, _, _, _, hloadable, rfl, _⟩ := hloads.exists_loaded hempty hd'
      exact hloadable.values_eq hdisk hmade hd hsaved (hreads identifier d hd)

end Saves

section Single

variable {σ : Type} {reply : σ → (q : Request) → q.Reply × σ} {d : Definition}

theorem Registry.forall_get?_register {P : String → Definition → Prop} (h : P d.identifier d) :
    ∀ identifier d', (({} : Registry).register d).2.get? identifier = some d' → P identifier d' := by
  intro identifier d' hd'
  obtain ⟨handle, hhandle, hd'⟩ := get?_eq_some_iff.mp hd'
  have hhandles : (({} : Registry).register d).2.handles = Dict.empty.insert d.identifier 0 := rfl
  rw [hhandles, Dict.get?_insert] at hhandle
  split at hhandle
  · next hidentifier =>
    obtain rfl := Option.some.inj hhandle
    obtain rfl : d = d' := Option.some.inj hd'
    exact hidentifier ▸ h
  · exact nomatch hhandle

theorem Registry.get?_register_self (d : Definition) :
    (({} : Registry).register d).2.get? d.identifier = some d := by
  have hhandles : (({} : Registry).register d).2.handles = Dict.empty.insert d.identifier 0 := rfl
  refine get?_eq_some_iff.mpr ⟨0, ?_, definition?_register_self {} d⟩
  rw [hhandles, Dict.get?_insert, if_pos rfl]

theorem Registry.mem_flushes_register {s : σ} (h : (Dialogue.run reply d.data.save s).1 = .ok ()) :
    (d.data, .ok ()) ∈ (({} : Registry).register d).2.flushes reply s := by
  have hregistered : (({} : Registry).register d).2.registered = [d] := rfl
  rw [flushes, hregistered, List.map_singleton, saves, h]
  exact List.mem_cons_self

end Single

namespace Loader

def countText : String := "n: 3\n"

/-- The values of that document, which proofs need not compute. -/
@[irreducible]
def counted : Dict Datum := (Yaml.readData countText).toOption.getD Dict.empty

theorem readData_countText : Yaml.readData countText = .ok counted := by
  unfold counted
  exact eq_ok_getD_of_isSome (by decide +kernel) _

theorem readData_text_of_counted {store : Store} (htext : store.text = countText)
    (hvalues : store.values = counted) : Yaml.readData store.text = .ok store.values := by
  rw [htext, hvalues]
  exact readData_countText

/-- A configured script whose template was edited after it was loaded. -/
def edited : World where
  files :=
    { nodes :=
        [(["scripts.yml"], .file (.text "a:\n  file: a.js\n")), (["scripts"], .directory),
          (["scripts", "a.js"], .file (.text "1 + 2"))]
      working := [] }
  clock := .zero
  service := fun _ _ text => .ok text

/-- The script gets its new template and keeps its values, which no file held before. -/
theorem reload_rebuilds_edited :
    let loader : Loader := .new "scripts.yml" "scripts"
    let old := loader.loaded "a" ⟨"a.js", some "STATIC"⟩ "1 + 1" counted .zero
    let r := (({} : Registry).register old).2
    Disk World.reply World.texts ∧ ForwardClock World.reply World.clock ∧
      (∀ identifier d, r.get? identifier = some d → loader.Made identifier d) ∧
      (∀ identifier d, r.get? identifier = some d →
        Yaml.readData d.data.text = .ok d.data.values) ∧
      let after := Dialogue.run World.reply (loader.reload r) edited
      after.1.1 = .ok after.1.2.size ∧
        ∃ d', after.1.2.get? "a" = some d' ∧ d'.data.values = counted := by
  intro loader old r
  have hmade : ∀ identifier d, r.get? identifier = some d → loader.Made identifier d :=
    Registry.forall_get?_register (made_loaded loader (by decide) _ _ _ _)
  have hreads : ∀ identifier d, r.get? identifier = some d →
      Yaml.readData d.data.text = .ok d.data.values :=
    Registry.forall_get?_register (readData_text_of_counted (by decide +kernel) rfl)
  refine ⟨World.disk, World.forwardClock, hmade, hreads, ?_⟩
  have hthere : ((Dialogue.run World.reply (loader.reload r) edited).1.2.get? "a").isSome = true := by
    decide +kernel
  have hconfiguration : Configuration.ofReply loader.configPath
      ((r.afterFlush World.reply edited).texts loader.configPath) =
        .ok (.ofList [("a", ⟨"a.js", none⟩)]) := by
    decide +kernel
  have hsaved : (old.data, .ok ()) ∈ r.flushes World.reply edited :=
    Registry.mem_flushes_register (by decide +kernel)
  have hold : r.get? "a" = some old := Registry.get?_register_self old
  obtain ⟨_, hlaw⟩ := reload_rebuilds World.disk World.forwardClock loader r edited hmade hreads
  rw [hconfiguration] at hlaw
  obtain ⟨hresult, _, _, hvalues⟩ := hlaw
  obtain ⟨d', hd'⟩ := Option.isSome_iff_exists.mp hthere
  exact ⟨hresult, d', hd', hvalues "a" old d' hold hd' hsaved⟩

end Loader

end PlaceholderScripts
