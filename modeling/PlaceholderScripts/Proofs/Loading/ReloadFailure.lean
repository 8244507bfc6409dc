import PlaceholderScripts.Proofs.Loading.Reload

/-!
# Reloads that fail

A reload saves, drops the scripts, and only then reads the configuration. If that cannot be read, no script
is registered any more. What the scripts were is not lost with their registration: the data that was saved
is what their files hold, where the next load finds it, and whoever has a handle of a script still reaches
the script as it was.
-/

namespace PlaceholderScripts

namespace Loader

section Runs

variable {σ : Type} {reply : σ → (q : Request) → q.Reply × σ}
  {texts : σ → Path → Except FileError String}

/-- A load for which the configuration cannot be read does nothing else. -/
theorem run_load_of_error (hfiles : SteadyFiles reply texts) (loader : Loader) (r : Registry) {s : σ}
    {e : LoadError}
    (h : Configuration.ofReply loader.configPath (texts s loader.configPath) = .error e) :
    Dialogue.run reply (loader.load r) s =
      ((.error e, r), (reply s (.readText loader.configPath)).2) := by
  rw [load, Dialogue.bind_eq, Dialogue.run_bind, run_loadConfiguration hfiles, h]
  rfl

theorem run_load_of_ok (hfiles : SteadyFiles reply texts) (loader : Loader) (r : Registry) {s : σ}
    {configuration : Configuration}
    (h : Configuration.ofReply loader.configPath (texts s loader.configPath) = .ok configuration) :
    ∃ n, (Dialogue.run reply (loader.load r) s).1.1 = .ok n := by
  rw [load, Dialogue.bind_eq, Dialogue.run_bind, run_loadConfiguration hfiles, h]
  simp only [Dialogue.bind_eq, Dialogue.run_bind]
  exact ⟨_, rfl⟩

theorem run_load_eq_error_iff (hfiles : SteadyFiles reply texts) (loader : Loader) (r : Registry) (s : σ)
    (e : LoadError) :
    (Dialogue.run reply (loader.load r) s).1.1 = .error e ↔
      Configuration.ofReply loader.configPath (texts s loader.configPath) = .error e := by
  cases h : Configuration.ofReply loader.configPath (texts s loader.configPath) with
  | error e' =>
    rw [run_load_of_error hfiles loader r h, Except.error.injEq, Except.error.injEq]
  | ok configuration =>
    obtain ⟨n, hn⟩ := run_load_of_ok hfiles loader r h
    rw [hn]
    exact iff_of_false (fun heq => nomatch heq) fun heq => nomatch heq

/-- A reload fails exactly if the configuration cannot be read once all data is saved, and with that error.
Then no script is registered any more. The definitions that were registered are what they were for those
who have their handles, and each script whose data was saved has its values in its data file. -/
theorem failed_reload_keeps_data (hdisk : Disk reply texts) (loader : Loader) (r : Registry) (s : σ)
    (hmade : ∀ identifier d, r.get? identifier = some d → loader.Made identifier d)
    (hreads : ∀ identifier d, r.get? identifier = some d →
      Yaml.readData d.data.text = .ok d.data.values) :
    let after := Dialogue.run reply (loader.reload r) s
    let r' := after.1.2
    ∀ e, (after.1.1 = .error e ↔ Configuration.ofReply loader.configPath
          (texts (r.afterFlush reply s) loader.configPath) = .error e) ∧
      (after.1.1 = .error e →
        (∀ identifier, r'.get? identifier = none) ∧ r'.size = 0 ∧
          (∀ handle, r'.definition? handle = r.definition? handle) ∧
          ∀ identifier d, r.get? identifier = some d → (d.data, .ok ()) ∈ r.flushes reply s →
            Store.FileHolds (texts after.2 (loader.dataFile identifier)) d.data.values) := by
  intro after r' e
  have hreload : after = Dialogue.run reply (loader.load r.clear) (r.afterFlush reply s) := by
    change Dialogue.run reply (loader.reload r) s = _
    rw [reload, Dialogue.bind_eq, Dialogue.run_bind, Registry.afterFlush]
  have hfails := run_load_eq_error_iff hdisk.toSteadyFiles loader r.clear (r.afterFlush reply s) e
  rw [← hreload] at hfails
  refine ⟨hfails, fun herror => ?_⟩
  have hafter := run_load_of_error hdisk.toSteadyFiles loader r.clear (hfails.mp herror)
  rw [← hreload] at hafter
  have hr' : r' = r.clear := congrArg (·.1.2) hafter
  have htexts : texts after.2 = texts (r.afterFlush reply s) := by
    rw [hafter]
    exact hdisk.steady _ _ id
  refine ⟨fun identifier => ?_, ?_, fun handle => ?_, ?_⟩
  · rw [hr']
    exact Registry.get?_clear r identifier
  · rw [hr']
    rfl
  · rw [hr']
    rfl
  · intro identifier d hd hsaved
    rw [htexts, texts_saveAll hdisk hmade hd hsaved]
    exact .mapping (Yaml.allBlank_writeMap d.data.values.entries) (hreads identifier d hd)

end Runs

/-- A script that is registered, and a configuration that was spoiled since. -/
def spoiled : World where
  files :=
    { nodes :=
        [(["scripts.yml"], .file (.text "- a\n")), (["scripts"], .directory),
          (["scripts", "a.js"], .file (.text "1 + 1"))]
      working := [] }
  clock := .zero
  service := fun _ _ text => .ok text

/-- The reload fails, and with it the script is gone. -/
theorem failed_reload_drops_scripts :
    let loader : Loader := .new "scripts.yml" "scripts"
    let r := (({} : Registry).register (loader.loaded "a" ⟨"a.js", none⟩ "1 + 1" counted .zero)).2
    let after := spoiled.run (loader.reload r)
    (∃ e, after.1.1 = .error e) ∧ (∃ d, r.get? "a" = some d) ∧ after.1.2.get? "a" = none := by
  intro loader r after
  have hgone : (after.1.2.get? "a").isNone = true := by decide +kernel
  exact ⟨exists_eq_error_of_isNone (by decide +kernel), ⟨_, Registry.get?_register_self _⟩,
    Option.isNone_iff_eq_none.mp hgone⟩

/-- The values of the script, which no file held before, are in its data file after the failure, and its
definition is still behind its handle. -/
theorem failed_reload_keeps_data_spoiled :
    let loader : Loader := .new "scripts.yml" "scripts"
    let old := loader.loaded "a" ⟨"a.js", none⟩ "1 + 1" counted .zero
    let r := (({} : Registry).register old).2
    Disk World.reply World.texts ∧
      (∀ identifier d, r.get? identifier = some d → loader.Made identifier d) ∧
      (∀ identifier d, r.get? identifier = some d →
        Yaml.readData d.data.text = .ok d.data.values) ∧
      let after := Dialogue.run World.reply (loader.reload r) spoiled
      (∃ e, after.1.1 = .error e) ∧ after.1.2.definition? 0 = some old ∧
        Store.FileHolds (after.2.texts (loader.dataFile "a")) counted := by
  intro loader old r
  have hmade : ∀ identifier d, r.get? identifier = some d → loader.Made identifier d :=
    Registry.forall_get?_register (made_loaded loader (by decide) _ _ _ _)
  have hreads : ∀ identifier d, r.get? identifier = some d →
      Yaml.readData d.data.text = .ok d.data.values :=
    Registry.forall_get?_register (readData_text_of_counted (by decide +kernel) rfl)
  have hlaw := failed_reload_keeps_data World.disk loader r spoiled hmade hreads
  obtain ⟨e, he⟩ : ∃ e, (Dialogue.run World.reply (loader.reload r) spoiled).1.1 = .error e :=
    exists_eq_error_of_isNone (by decide +kernel)
  obtain ⟨-, -, hhandles, hdata⟩ := (hlaw e).2 he
  refine ⟨World.disk, hmade, hreads, ⟨e, he⟩, hhandles 0, ?_⟩
  have hsaved : (old.data, .ok ()) ∈ r.flushes World.reply spoiled :=
    Registry.mem_flushes_register (by decide +kernel)
  exact hdata "a" old (Registry.get?_register_self old) hsaved

end Loader

end PlaceholderScripts
