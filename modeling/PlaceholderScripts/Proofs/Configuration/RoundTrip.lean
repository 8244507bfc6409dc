import PlaceholderScripts.Proofs.Loading.Reload

/-!
# Configurations that go to the disk and come back

A configuration that was put together in any way is saved, and whoever loads its file finds it again. An entry is
written as a map of texts, in which the cache stands only if there is one, and the reader of entries makes the same
entry from that. The empty configuration is written as a text that is not blank, and is read back all the same.
-/

namespace PlaceholderScripts

namespace Yaml

namespace Document

/-- The text that a node is, unless it means something else. -/
def text? (doc : Document) (node : Node) : Option String :=
  match doc.follow node with
  | .scalar text style tag _ =>
    match scalarValue text style tag with
    | .ok .text => some text
    | _ => none
  | _ => none

/-- The entries of the map that a node is, in order, where every key is a text. -/
def entries? {α : Type} (doc : Document) (value? : Node → Option α) (node : Node) : Option (List (String × α)) :=
  match doc.follow node with
  | .mapping pairs _ _ => pairs.mapM fun pair => do return (← doc.text? pair.1, ← value? pair.2)
  | _ => none

variable {α : Type} {doc : Document} {node : Node}

theorem text?_eq_some {text : String} (h : doc.text? node = some text) :
    ∃ style tag mark, doc.follow node = .scalar text style tag mark ∧ scalarValue text style tag = .ok .text := by
  unfold text? at h
  split at h
  · next text' style tag mark hnode =>
    split at h
    · next hvalue =>
      obtain rfl := Option.some.inj h
      exact ⟨style, tag, mark, hnode, hvalue⟩
    · exact nomatch h
  · exact nomatch h

theorem readText_of_text? {text : String} (h : doc.text? node = some text) (expected : String) (route : Route) :
    doc.readText expected route node = .ok text := by
  obtain ⟨style, tag, mark, hnode, -⟩ := text?_eq_some h
  rw [readText, hnode]

theorem readMapping_of_entries? {value? : Node → Option α} {entries : List (String × α)}
    (h : doc.entries? value? node = some entries) (expected : String) (route : Route) :
    ∃ record pairs, doc.readMapping expected route node = .ok (record, pairs) ∧
      (pairs.mapM fun pair => do return (← doc.text? pair.1, ← value? pair.2)) = some entries := by
  unfold entries? at h
  split at h
  · next pairs tag mark hnode =>
    refine ⟨.mapping pairs tag mark, pairs, ?_, h⟩
    rw [readMapping, hnode]
  · exact nomatch h

theorem eq_some_of_pair {value? : Node → Option α} {pair : Node × Node} {key : String} {value : α}
    (h : (do return (← doc.text? pair.1, ← value? pair.2)) = some (key, value)) :
    doc.text? pair.1 = some key ∧ value? pair.2 = some value := by
  obtain ⟨first, hfirst, hsecond⟩ := Option.bind_eq_some_iff.mp h
  obtain ⟨second, hvalue, heq⟩ := Option.bind_eq_some_iff.mp hsecond
  obtain ⟨rfl, rfl⟩ := Prod.mk.inj (Option.some.inj heq)
  exact ⟨hfirst, hvalue⟩

end Document

/-- The maps of maps of texts that a text is the document of. -/
def textMaps? (text : String) : Option (List (String × List (String × String))) :=
  match Document.parse text with
  | .ok doc => if doc.more then none else doc.entries? (doc.entries? doc.text?) doc.root
  | .error _ => none

def writeTextMaps (maps : List (String × List (String × String))) : String :=
  writeMap (maps.map fun m => (m.1, .map (m.2.map fun e => (e.1, .text e.2))))

/-- What is written for the maps is read as the same maps. -/
def ReadsBack (maps : List (String × List (String × String))) : Prop := textMaps? (writeTextMaps maps) = some maps

instance (maps : List (String × List (String × String))) : Decidable (ReadsBack maps) :=
  inferInstanceAs (Decidable (textMaps? (writeTextMaps maps) = some maps))

theorem ok_bind {α β ε : Type} (a : α) (k : α → Except ε β) : (Except.ok a >>= k) = k a := rfl

section Items

variable {α β γ ε : Type} {read? : α → Option β} {items : List α}

theorem eq_nil_of_mapM (h : items.mapM read? = some []) : items = [] := by
  cases items with
  | nil => rfl
  | cons item rest =>
    rw [List.mapM_cons] at h
    obtain ⟨_, -, hrest⟩ := Option.bind_eq_some_iff.mp h
    obtain ⟨_, -, heq⟩ := Option.bind_eq_some_iff.mp hrest
    exact nomatch heq

theorem eq_cons_of_mapM {result : β} {results : List β} (h : items.mapM read? = some (result :: results)) :
    ∃ item rest, items = item :: rest ∧ read? item = some result ∧ rest.mapM read? = some results := by
  cases items with
  | nil => exact nomatch h
  | cons item rest =>
    rw [List.mapM_cons] at h
    obtain ⟨first, hfirst, hrest⟩ := Option.bind_eq_some_iff.mp h
    obtain ⟨others, hothers, heq⟩ := Option.bind_eq_some_iff.mp hrest
    obtain ⟨rfl, rfl⟩ := List.cons.inj (Option.some.inj heq)
    exact ⟨item, rest, rfl, hfirst, hothers⟩

theorem mapM_eq_ok_of_eq_some {read : α → Except ε γ} {shown : γ → β}
    (h : ∀ a c, read? a = some (shown c) → read a = .ok c) {results : List γ}
    (hitems : items.mapM read? = some (results.map shown)) : items.mapM read = .ok results := by
  induction results generalizing items with
  | nil =>
    obtain rfl := eq_nil_of_mapM hitems
    rfl
  | cons result results ih =>
    obtain ⟨item, rest, rfl, hitem, hrest⟩ := eq_cons_of_mapM hitems
    rw [List.mapM_cons, h item result hitem, ih hrest]
    rfl

end Items

end Yaml

namespace ScriptEntry

open Yaml

def fields (entry : ScriptEntry) : List (String × String) :=
  ("file", entry.file) :: entry.cache.toList.map fun cache => ("cache", cache)

theorem toDatum_eq (entry : ScriptEntry) : entry.toDatum = .map (entry.fields.map fun e => (e.1, .text e.2)) := by
  obtain ⟨file, cache | cache⟩ := entry <;> rfl

variable {doc : Document} {node : Node} {text : String}

theorem not_null_of_text {tag : Option String} (h : scalarValue text .plain tag = .ok .text) :
    tag ≠ some CoreTag.null ∧ (tag = none → (text.isEmpty || Plain.isNull text) = false) := by
  constructor
  · rintro rfl
    by_cases hnull : Plain.isNull text = true <;>
      simp [scalarValue, CoreTag.null, CoreTag.bool, CoreTag.int, CoreTag.float, hnull] at h
  · rintro rfl
    rw [← Bool.not_eq_true]
    intro hnull
    rw [scalarValue, if_pos rfl, Plain.ofString, if_pos hnull] at h
    exact nomatch h

/-- What is a text and nothing else is not taken for the absence of a text. -/
theorem readOptional_of_text? (h : doc.text? node = some text) (route : Route) :
    readOptional doc route node = .ok (some text) := by
  obtain ⟨style, tag, mark, hnode, hvalue⟩ := Document.text?_eq_some h
  rw [readOptional, hnode]
  dsimp only
  by_cases hstyle : style = .plain
  · -- without quotes it would mean null, were it spelled or tagged like null
    subst hstyle
    obtain ⟨htag, hplain⟩ := not_null_of_text hvalue
    rw [if_neg (not_not_intro rfl), if_neg htag]
    cases tag with
    | none => rw [hplain rfl]; rfl
    | some tag => rfl
  · rw [if_pos hstyle]

section Fields

variable {route : Route} {record : Node} {pair : Node × Node}

theorem readField_file {file : String} (hname : doc.text? pair.1 = some "file") (hfile : doc.text? pair.2 = some file) :
    readField doc route record {} pair = .ok { file := some file } := by
  rw [readField, Document.readText_of_text? hname, ok_bind, if_pos rfl, Document.readText_of_text? hfile]
  rfl

theorem readField_cache {cache : String} {file : Option Path} (hname : doc.text? pair.1 = some "cache")
    (hcache : doc.text? pair.2 = some cache) :
    readField doc route record { file } pair = .ok { file, cache := some (some cache) } := by
  rw [readField, Document.readText_of_text? hname, ok_bind, if_neg (by decide), if_pos rfl, readOptional_of_text? hcache]
  rfl

theorem foldlM_readField {entry : ScriptEntry} {pairs : List (Node × Node)}
    (h : (pairs.mapM fun pair => do return (← doc.text? pair.1, ← doc.text? pair.2)) = some entry.fields) :
    pairs.foldlM (readField doc route record) {} = .ok { file := some entry.file, cache := entry.cache.map some } := by
  obtain ⟨first, rest, rfl, hfirst, hrest⟩ := Yaml.eq_cons_of_mapM h
  obtain ⟨hname, hfile⟩ := Document.eq_some_of_pair hfirst
  rw [List.foldlM_cons, readField_file hname hfile]
  obtain ⟨file, cache | cache⟩ := entry
  · obtain rfl := Yaml.eq_nil_of_mapM hrest
    rfl
  · obtain ⟨second, others, rfl, hsecond, hothers⟩ := Yaml.eq_cons_of_mapM hrest
    obtain rfl := Yaml.eq_nil_of_mapM hothers
    obtain ⟨hname, hcache⟩ := Document.eq_some_of_pair hsecond
    rw [ok_bind, List.foldlM_cons, readField_cache hname hcache]
    rfl

end Fields

theorem ofNode_of_fields {entry : ScriptEntry} (h : doc.entries? doc.text? node = some entry.fields) (route : Route) :
    ofNode doc route node = .ok entry := by
  obtain ⟨record, pairs, hmapping, hpairs⟩ := Document.readMapping_of_entries? h "struct ScriptEntry" route
  rw [ofNode, hmapping, ok_bind]
  dsimp only
  rw [foldlM_readField hpairs]
  obtain ⟨file, cache | cache⟩ := entry <;> rfl

end ScriptEntry

namespace Configuration

inductive Change where
  /-- Another configuration is read, if it can be. -/
  | parse (path : Path) (text : String)
  | insert (identifier : String) (entry : ScriptEntry)
  | remove (identifier : String)

def change (configuration : Configuration) : Change → Configuration
  | .parse path text =>
    match parse path text with
    | .ok other => other
    | .error _ => configuration
  | .insert identifier entry => Dict.insert configuration identifier entry
  | .remove identifier => Dict.erase configuration identifier

def changed (changes : List Change) : Configuration := changes.foldl change Dict.empty

def maps (configuration : Configuration) : List (String × List (String × String)) :=
  configuration.entries.map fun e => (e.1, e.2.fields)

theorem text_eq (configuration : Configuration) : configuration.text = Yaml.writeTextMaps configuration.maps := by
  have hentries : (configuration.map ScriptEntry.toDatum).entries =
      configuration.maps.map fun m => (m.1, .map (m.2.map fun e => (e.1, .text e.2))) := by
    rw [maps, List.map_map]
    exact List.map_congr_left fun e _ => congrArg (e.1, ·) e.2.toDatum_eq
  rw [text, hentries, Yaml.writeTextMaps]

theorem readMap_of_maps {configuration : Configuration} {text : String}
    (h : Yaml.textMaps? text = some configuration.maps) : Yaml.readMap ScriptEntry.ofNode text = .ok configuration := by
  unfold Yaml.textMaps? at h
  split at h
  · next doc hdoc =>
    split at h
    · exact nomatch h
    · next hmore =>
      obtain ⟨record, pairs, hmapping, hpairs⟩ := Yaml.Document.readMapping_of_entries? h "a map" []
      have hentries : (pairs.mapM fun pair => do
          let key ← doc.readText "a string" [] pair.1
          let value ← ScriptEntry.ofNode doc [Yaml.Document.stepTo pair.1] pair.2
          return (key, value)) = .ok configuration.entries := by
        refine Yaml.mapM_eq_ok_of_eq_some (fun pair e hpair => ?_) hpairs
        obtain ⟨hkey, hvalue⟩ := Yaml.Document.eq_some_of_pair hpair
        rw [Yaml.Document.readText_of_text? hkey, ScriptEntry.ofNode_of_fields hvalue]
        rfl
      rw [Yaml.readMap, hdoc]
      dsimp only
      rw [hmapping, Yaml.ok_bind]
      dsimp only
      rw [hentries, Yaml.ok_bind, if_neg hmore, Dict.ofList_entries]
      rfl
  · exact nomatch h

theorem readsBack_of_imp {configuration : Configuration}
    (h : configuration ≠ Dict.empty → Yaml.ReadsBack configuration.maps) : Yaml.ReadsBack configuration.maps := by
  by_cases hempty : configuration = Dict.empty
  · subst hempty
    have hread : Yaml.ReadsBack [] := by decide +kernel
    exact hread
  · exact h hempty

theorem parse_text {configuration : Configuration} (h : Yaml.ReadsBack configuration.maps) (path : Path) :
    parse path configuration.text = .ok configuration := by
  have hread : Yaml.readMap ScriptEntry.ofNode configuration.text = .ok configuration := by
    rw [text_eq]
    exact readMap_of_maps h
  rw [parse, if_neg (by rw [text, Yaml.allBlank_writeMap]; exact Bool.false_ne_true), hread]

theorem texts_save {σ : Type} {reply : σ → (q : Request) → q.Reply × σ} {texts : σ → Path → Except FileError String}
    (hdisk : Disk reply texts) (configuration : Configuration) {path : Path} {s : σ}
    (h : (Dialogue.run reply (configuration.save path) s).1 = .ok ()) :
    texts (Dialogue.run reply (configuration.save path) s).2 path = .ok configuration.text := by
  generalize hsave : Dialogue.run reply (configuration.save path) s = outcome at h ⊢
  rw [save] at hsave
  simp only [Dialogue.bind_eq, Dialogue.run_bind, Program.run_createParents] at hsave
  split at hsave
  · rw [← hsave] at h
    exact nomatch h
  · simp only [Dialogue.run_bind, Program.run_writeText] at hsave
    split at hsave
    · rw [← hsave] at h
      exact nomatch h
    · next hwritten =>
      rw [← hsave]
      exact hdisk.written _ path configuration.text hwritten

/-- A configuration that was put together in any way, and was saved, is found again by whoever loads its file. An entry
without a cache has none then, and a cache is the text that it was. That the written texts are read as texts is
assumed, but for those of the empty configuration. -/
theorem saved_configuration_survives (changes : List Change) (world : World) (path : Path)
    (hsave : (world.run ((changed changes).save path)).1 = .ok ())
    (hreads : changed changes ≠ Dict.empty → Yaml.ReadsBack (changed changes).maps) :
    let configuration := changed changes
    let after := (world.run (configuration.save path)).2
    after.texts path = .ok configuration.text ∧ after.run (load path) = (.ok configuration, after) := by
  intro configuration after
  have htext : after.texts path = .ok configuration.text := texts_save World.disk configuration hsave
  refine ⟨htext, ?_⟩
  have hparse : parse path configuration.text = .ok configuration := parse_text (readsBack_of_imp hreads) path
  rw [World.run, Loader.run_loadConfiguration World.steadyFiles, htext, ofReply, hparse]
  rfl

/-- Caches and names that look like something else, saved in a directory that has to be made. -/
theorem saved_configuration_survives_odd :
    let world : World := ⟨⟨[], []⟩, .zero, fun _ _ text => .ok text⟩
    let changes : List Change :=
      [.parse "scripts.yml" "old:\n  file: old.rhai\n'12': \x7bfile: a.rhai\x7d\n", .insert "null" ⟨"true", some "null"⟩,
        .insert "" ⟨"s/\u00fc b.rhai", some "12"⟩, .insert "a: b\nc" ⟨"", some ""⟩, .remove "old",
        .parse "scripts.yml" "- old", .insert "12" ⟨"~", none⟩]
    let configuration := changed changes
    let after := (world.run (configuration.save "conf/scripts.yml")).2
    after.run (load "conf/scripts.yml") = (.ok configuration, after) ∧
      configuration.entries =
        [("", ⟨"s/\u00fc b.rhai", some "12"⟩), ("12", ⟨"~", none⟩), ("a: b\nc", ⟨"", some ""⟩),
          ("null", ⟨"true", some "null"⟩)] := by
  intro world changes configuration after
  have hentries : configuration.entries =
      [("", ⟨"s/\u00fc b.rhai", some "12"⟩), ("12", ⟨"~", none⟩), ("a: b\nc", ⟨"", some ""⟩),
        ("null", ⟨"true", some "null"⟩)] := by
    decide +kernel
  have hreads : Yaml.ReadsBack configuration.maps := by
    rw [maps, hentries]
    decide +kernel
  have hsave : (world.run (configuration.save "conf/scripts.yml")).1 = .ok () := by decide +kernel
  exact ⟨(saved_configuration_survives changes world "conf/scripts.yml" hsave fun _ => hreads).2, hentries⟩

end Configuration

end PlaceholderScripts
