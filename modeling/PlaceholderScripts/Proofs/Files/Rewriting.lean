import PlaceholderScripts.Proofs.Files.Writing

/-!
# Files that are written again and again

A file system in which nothing but texts at some places was written has the directories that it had. So
every path that led somewhere leads there still, whatever could be read elsewhere reads as before, the
same files can be written again, and directories that were made once need not be made any more. Only
where nothing was found before can the making of directories show something.
-/

namespace PlaceholderScripts

namespace FileSystem

structure Rewrites (places : Place → Prop) (fs fs' : FileSystem) : Prop where
  working : fs'.working = fs.working
  nodes : ∀ place, fs'.node? place = fs.node? place ∨
    (places place ∧ fs.node? place ≠ some .directory ∧
      ∃ text, fs'.node? place = some (.file (.text text)))

namespace Rewrites

variable {places : Place → Prop} {fs fs' : FileSystem}

theorem refl (places : Place → Prop) (fs : FileSystem) : Rewrites places fs fs :=
  ⟨rfl, fun _ => .inl rfl⟩

theorem node?_eq (h : Rewrites places fs fs') {place : Place} (hplace : ¬ places place) :
    fs'.node? place = fs.node? place :=
  (h.nodes place).resolve_right fun hchanged => hplace hchanged.1

theorem keepsDirectories (h : Rewrites places fs fs') : KeepsDirectories fs fs' where
  working := h.working
  directories := by
    intro place hplace
    rcases h.nodes place with hsame | ⟨_, hdirectory, _⟩
    · rw [hsame, hplace]
    · exact absurd hplace hdirectory

theorem keepsDirectories_symm (h : Rewrites places fs fs') : KeepsDirectories fs' fs where
  working := h.working.symm
  directories := by
    intro place hplace
    rcases h.nodes place with hsame | ⟨_, _, _, htext⟩
    · rw [← hsame, hplace]
    · rw [htext] at hplace
      exact nomatch hplace

theorem resolve_iff (h : Rewrites places fs fs') {path : Path} {place : Place} :
    fs'.resolve path = .ok place ↔ fs.resolve path = .ok place :=
  ⟨h.keepsDirectories_symm.resolve, h.keepsDirectories.resolve⟩

theorem readText_iff (h : Rewrites places fs fs') {path : Path} {text : String}
    (hpath : ∀ place, fs.resolve path = .ok place → ¬ places place) :
    fs'.readText path = .ok text ↔ fs.readText path = .ok text := by
  rw [readText_eq_ok_iff, readText_eq_ok_iff]
  constructor
  · rintro ⟨place, hresolve, hnode⟩
    rw [h.resolve_iff] at hresolve
    rw [h.node?_eq (hpath place hresolve)] at hnode
    exact ⟨place, hresolve, hnode⟩
  · rintro ⟨place, hresolve, hnode⟩
    refine ⟨place, h.resolve_iff.mpr hresolve, ?_⟩
    rw [h.node?_eq (hpath place hresolve), hnode]

/-- The other names in a directory are read as before, also where nothing can be read. -/
theorem readText_join (h : Rewrites places fs fs') {dir : Path} {place : Place}
    (hdir : fs.enter dir = .ok place) (hplace : fs.node? place = some .directory) {name : String}
    (hname : Path.IsName name) (hother : ¬ places (place ++ [name])) :
    fs'.readText (Path.join dir name) = fs.readText (Path.join dir name) := by
  have hdir' : fs'.enter dir = .ok place := by
    rw [enter] at hdir ⊢
    rw [h.working]
    exact h.keepsDirectories.walk hdir
  have hsame : fs'.resolve (Path.join dir name) = fs.resolve (Path.join dir name) := by
    rw [resolve_join hname, resolve_join hname, hdir, hdir']
    simp only [Except.bind, walk_name hname hplace,
      walk_name hname (h.keepsDirectories.directories place hplace)]
  rw [readText, readText, hsame]
  cases hresolve : fs.resolve (Path.join dir name) with
  | error e => rfl
  | ok target =>
    rw [resolve_join hname] at hresolve
    split at hresolve
    · exact nomatch hresolve
    · rw [hdir] at hresolve
      obtain ⟨_, rfl⟩ := walk_name_eq_ok hname hresolve
      simp only [h.node?_eq hother]

/-- A file that could be written can be written again, with any text. -/
theorem writeText (h : Rewrites places fs fs') {path : Path} {text : String} {written : FileSystem}
    (hwritten : fs.writeText path text = .ok written) (text' : String) :
    ∃ place, place ≠ [] ∧ fs.resolve path = .ok place ∧ fs.node? place ≠ some .directory ∧
      fs'.writeText path text' = .ok (fs'.set place (.file (.text text'))) := by
  obtain ⟨place, hroot, hresolve, hnode, -⟩ := writeText_eq_ok hwritten
  have hfile : ¬ path.toList.getLast? = some '/' := by
    intro hslash
    rw [FileSystem.writeText, if_pos hslash] at hwritten
    exact nomatch hwritten
  have hnode' : fs'.node? place ≠ some .directory := fun hdirectory =>
    hnode (h.keepsDirectories_symm.directories place hdirectory)
  refine ⟨place, hroot, hresolve, hnode, ?_⟩
  rw [FileSystem.writeText, if_neg hfile, h.resolve_iff.mpr hresolve]
  cases hthere : fs'.node? place with
  | none => simp only [hthere]
  | some node =>
    cases node with
    | file content => simp only [hthere]
    | directory => exact absurd hthere hnode'

theorem set (h : Rewrites places fs fs') {place : Place} (hroot : place ≠ []) (hplace : places place)
    (hnode : fs.node? place ≠ some .directory) (text : String) :
    Rewrites places fs (fs'.set place (.file (.text text))) := by
  refine ⟨h.working, fun p => ?_⟩
  rw [node?_set hroot]
  by_cases hp : p = place
  · subst hp
    exact .inr ⟨hplace, hnode, text, if_pos rfl⟩
  · rw [if_neg hp]
    exact h.nodes p

end Rewrites

theorem setIn_of_lookup {place : Place} {node : FileNode} {nodes : List (Place × FileNode)}
    (h : nodes.lookup place = some node) : setIn place node nodes = nodes := by
  induction nodes with
  | nil => cases h
  | cons entry rest ih =>
    obtain ⟨p, n⟩ := entry
    rw [setIn]
    by_cases hp : place = p
    · subst hp
      rw [List.lookup_cons_self] at h
      rw [if_pos rfl, Option.some.inj h]
    · rw [List.lookup_cons, beq_false_of_ne hp] at h
      rw [if_neg hp, ih h]

theorem set_of_node? {fs : FileSystem} {place : Place} {node : FileNode} (hroot : place ≠ [])
    (h : fs.node? place = some node) : fs.set place node = fs := by
  rw [node?, if_neg hroot] at h
  rw [set, setIn_of_lookup h]

/-- A file that was written can be written with the same text once more, and nothing is changed by that. -/
theorem writeText_again {fs written : FileSystem} {path : Path} {text : String}
    (h : fs.writeText path text = .ok written) : written.writeText path text = .ok written := by
  obtain ⟨place, hroot, hresolve, hnode, rfl⟩ := writeText_eq_ok h
  have hrewrites : Rewrites (· = place) fs (fs.set place (.file (.text text))) :=
    (Rewrites.refl (· = place) fs).set hroot rfl hnode text
  obtain ⟨place', -, hresolve', -, hagain⟩ := hrewrites.writeText h text
  obtain rfl : place = place' := Except.ok.inj (hresolve.symm.trans hresolve')
  rw [hagain, set_of_node? hroot]
  rw [node?_set hroot, if_pos rfl]

theorem directory_of_makeDirectories {fs made : FileSystem} {place : Place} {names : List String}
    (h : fs.makeDirectories place names = (.ok (), made)) :
    ∀ p ∈ waypoints place names, made.node? p = some .directory := by
  induction names generalizing fs place with
  | nil => exact fun p hp => absurd hp List.not_mem_nil
  | cons name rest ih =>
    rw [makeDirectories] at h
    rw [waypoints]
    generalize (if name = ".." then place.dropLast else place ++ [name]) = next at h ⊢
    have hfrom (start : FileSystem) (hstart : start.node? next = some .directory)
        (hrest : start.makeDirectories next rest = (.ok (), made)) :
        ∀ p ∈ next :: waypoints next rest, made.node? p = some .directory := by
      have hkept := (makesDirectories_makeDirectories start next rest).keepsDirectories
      rw [hrest] at hkept
      exact List.forall_mem_cons.mpr ⟨hkept.directories next hstart, ih hrest⟩
    split at h
    · cases h
    · split at h
      · next hthere => exact hfrom fs hthere h
      · cases h
      · next hnothing =>
        have hroot : next ≠ [] := by
          rintro rfl
          simp [node?] at hnothing
        exact hfrom (fs.set next .directory) (by rw [node?_set hroot, if_pos rfl]) h

/-- Directories that were made are there, wherever no directory got lost since. -/
theorem makeDirectories_again {fs made fs' : FileSystem} {place : Place} {names : List String}
    (hmade : fs.makeDirectories place names = (.ok (), made)) (hkeeps : KeepsDirectories made fs') :
    fs'.makeDirectories place names = (.ok (), fs') := by
  -- both come by the same places, at each of which there is a directory by now
  induction names generalizing fs place with
  | nil => rfl
  | cons name rest ih =>
    have hthere := directory_of_makeDirectories hmade
    rw [makeDirectories] at hmade ⊢
    rw [waypoints] at hthere
    generalize (if name = ".." then place.dropLast else place ++ [name]) = next at hmade hthere ⊢
    split at hmade
    · cases hmade
    · next hshort =>
      rw [if_neg hshort, hkeeps.directories next (hthere next List.mem_cons_self)]
      split at hmade
      · exact ih hmade
      · cases hmade
      · exact ih hmade

theorem createDirectories_again {fs made fs' : FileSystem} {absolute : Bool} {names : List String}
    (hmade : fs.createDirectories absolute names = (.ok (), made)) (hkeeps : KeepsDirectories made fs') :
    fs'.createDirectories absolute names = (.ok (), fs') := by
  rw [createDirectories] at hmade ⊢
  split at hmade
  · cases hmade
  · next hclean =>
    rw [if_neg hclean]
    have hworking : fs'.working = fs.working := by
      rw [hkeeps.working, ← (makesDirectories_makeDirectories fs _ names).working, hmade]
    rw [hworking]
    exact makeDirectories_again hmade hkeeps

theorem makesDirectories_createDirectories (fs : FileSystem) (absolute : Bool) (names : List String) :
    ∃ places, MakesDirectories places fs (fs.createDirectories absolute names).2 := by
  rw [createDirectories]
  split
  · exact ⟨[], makesDirectories_refl [] fs⟩
  · exact ⟨_, makesDirectories_makeDirectories fs _ names⟩

namespace MakesDirectories

variable {places : List Place} {fs fs' : FileSystem}

/-- A walk that does not end at a gap ends the same once directories are made. -/
theorem walk_cases (h : MakesDirectories places fs fs') (place : Place) (ps : List String) :
    fs.walk place ps = .error .notFound ∨ fs'.walk place ps = fs.walk place ps := by
  induction ps generalizing place with
  | nil => exact .inr rfl
  | cons part rest ih =>
    rw [walk, walk]
    rcases h.nodes place with hsame | ⟨_, hnone, _⟩
    · rw [hsame]
      cases fs.node? place with
      | none => exact .inr rfl
      | some node =>
        cases node with
        | file content => exact .inr rfl
        | directory =>
          simp only
          split
          · exact ih place
          · split
            · exact ih place.dropLast
            · split
              · exact .inr rfl
              · exact ih (place ++ [part])
    · rw [hnone]
      exact .inl rfl

/-- What is read is the same once directories are made, unless nothing was found. -/
theorem readText_cases (h : MakesDirectories places fs fs') (path : Path) :
    fs.readText path = .error .notFound ∨ fs'.readText path = fs.readText path := by
  have hresolve : fs.resolve path = .error .notFound ∨ fs'.resolve path = fs.resolve path := by
    rw [resolve, resolve, h.working]
    split
    · exact .inr rfl
    · split
      · exact .inr rfl
      · exact h.walk_cases _ _
  rw [FileSystem.readText, FileSystem.readText]
  rcases hresolve with hgap | hsame
  · rw [hgap]
    exact .inl rfl
  · rw [hsame]
    cases fs.resolve path with
    | error e => exact .inr rfl
    | ok place =>
      rcases h.nodes place with hnode | ⟨_, hnone, _⟩
      · simp only [hnode]
        exact .inr trivial
      · simp only [hnone]
        exact .inl trivial

end MakesDirectories

end FileSystem

end PlaceholderScripts
