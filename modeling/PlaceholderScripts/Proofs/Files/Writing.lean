import Mathlib.Data.List.Basic
import PlaceholderScripts.Files.FileSystem

/-!
# What file operations change

A directory that is there stays there, so whatever a path leads to it leads to ever after. Writing a file
changes nothing but the place that its path leads to, and making the directories above a file changes
nothing but that directories stand where nothing stood. Hence a file that was written reads back, also
behind any later writing of other names in its directory.
-/

namespace PlaceholderScripts

theorem Text.splitAt_eq_splitOn (sep : Char) (cs : List Char) :
    Text.splitAt sep cs = cs.splitOn sep := by
  induction cs with
  | nil => rfl
  | cons c rest ih =>
    rw [Text.splitAt, List.splitOn_cons_eq_if_modifyHead, ih]
    by_cases hc : c = sep
    · simp [hc]
    · cases hpieces : rest.splitOn sep with
      | nil => exact absurd hpieces (List.splitOn_ne_nil sep rest)
      | cons piece pieces => simp [hc]

namespace Path

structure IsName (name : String) : Prop where
  single : '/' ∉ name.toList
  notEmpty : name ≠ ""
  notHere : name ≠ "."
  notAbove : name ≠ ".."

/-- What stands in front of the names in a directory. -/
def front (dir : Path) : List Char :=
  if dir.isEmpty then []
  else if dir.toList.getLast? = some '/' then dir.toList
  else dir.toList ++ ['/']

def frontParts (dir : Path) : List String :=
  ((front dir).splitOn '/').dropLast.map String.ofList

theorem front_eq_nil_or (dir : Path) : front dir = [] ∨ ∃ before, front dir = before ++ ['/'] := by
  unfold front
  split
  · exact .inl rfl
  · split
    · next hlast => exact .inr ⟨_, (List.dropLast_append_getLast? _ hlast).symm⟩
    · exact .inr ⟨_, rfl⟩

theorem IsName.isAbsolute {name : String} (h : IsName name) : isAbsolute name = false := by
  unfold Path.isAbsolute
  cases hcs : name.toList with
  | nil => rfl
  | cons c rest =>
    have hc : c ≠ '/' := fun hc => h.single (by rw [hcs, hc]; exact List.mem_cons_self)
    simp [hc]

theorem IsName.toList_join {name : String} (h : IsName name) (dir : Path) :
    (join dir name).toList = front dir ++ name.toList := by
  rw [join, h.isAbsolute, Bool.false_or, front]
  split
  · rfl
  · split
    · exact String.toList_append
    · simp

theorem IsName.parts_join {name : String} (h : IsName name) (dir : Path) :
    parts (join dir name) = frontParts dir ++ [name] := by
  have hname : name.toList.splitOn '/' = [name.toList] := List.splitOn_eq_singleton h.single
  rw [parts, Text.splitAt_eq_splitOn, h.toList_join, frontParts]
  rcases front_eq_nil_or dir with hfront | ⟨before, hfront⟩
  · rw [hfront, List.nil_append, hname]
    simp
  · have hjoined : (before ++ ['/'] ++ name.toList).splitOn '/' =
        before.splitOn '/' ++ [name.toList] := by
      rw [List.append_assoc, List.singleton_append, ← hname]
      exact List.splitOn_append_cons_self before name.toList
    have hbefore : (before ++ ['/']).splitOn '/' = before.splitOn '/' ++ [[]] :=
      List.splitOn_append_cons_self before []
    rw [hfront, hjoined, hbefore, List.dropLast_concat, List.map_append]
    simp

theorem IsName.isAbsolute_join {name : String} (h : IsName name) (dir : Path) :
    Path.isAbsolute (join dir name) = ((front dir).head? == some '/') := by
  have hname := h.isAbsolute
  unfold Path.isAbsolute at hname ⊢
  rw [h.toList_join, List.head?_append]
  cases (front dir).head? with
  | none => exact hname
  | some c => rfl

end Path

namespace FileSystem

theorem lookup_setIn (place p : Place) (node : FileNode) (nodes : List (Place × FileNode)) :
    (setIn place node nodes).lookup p = if p = place then some node else nodes.lookup p := by
  induction nodes with
  | nil =>
    by_cases hp : p = place
    · simp [setIn, hp]
    · simp [setIn, List.lookup_cons, beq_false_of_ne hp, hp]
  | cons e rest ih =>
    obtain ⟨q, n⟩ := e
    rw [setIn]
    by_cases hq : place = q
    · subst hq
      by_cases hp : p = place
      · simp [hp]
      · simp [List.lookup_cons, beq_false_of_ne hp, hp]
    · by_cases hp : p = q
      · subst hp
        simp [hq, Ne.symm hq]
      · simp [List.lookup_cons, beq_false_of_ne hp, hq, ih]

theorem node?_set {place : Place} (hroot : place ≠ []) (fs : FileSystem) (node : FileNode)
    (p : Place) : (fs.set place node).node? p = if p = place then some node else fs.node? p := by
  unfold node? FileSystem.set
  rw [lookup_setIn]
  by_cases hp : p = []
  · simp [hp, Ne.symm hroot]
  · simp [hp]

structure KeepsDirectories (fs fs' : FileSystem) : Prop where
  working : fs'.working = fs.working
  directories : ∀ place, fs.node? place = some .directory → fs'.node? place = some .directory

theorem KeepsDirectories.walk {fs fs' : FileSystem} (h : KeepsDirectories fs fs') {place target : Place}
    {ps : List String} (hwalk : fs.walk place ps = .ok target) : fs'.walk place ps = .ok target := by
  induction ps generalizing place with
  | nil => exact hwalk
  | cons part rest ih =>
    rw [FileSystem.walk] at hwalk ⊢
    cases hnode : fs.node? place with
    | none => simp [hnode] at hwalk
    | some node =>
      cases node with
      | file content => simp [hnode] at hwalk
      | directory =>
        rw [hnode] at hwalk
        rw [h.directories place hnode]
        -- both walks take the same step, whichever of the four it is
        simp only at hwalk ⊢
        split at hwalk
        · next hhere => rw [if_pos hhere]; exact ih hwalk
        · next hhere =>
          rw [if_neg hhere]
          split at hwalk
          · next habove => rw [if_pos habove]; exact ih hwalk
          · next habove =>
            rw [if_neg habove]
            split at hwalk
            · exact nomatch hwalk
            · next hlong => rw [if_neg hlong]; exact ih hwalk

theorem KeepsDirectories.resolve {fs fs' : FileSystem} (h : KeepsDirectories fs fs') {path : Path}
    {place : Place} (hresolve : fs.resolve path = .ok place) : fs'.resolve path = .ok place := by
  unfold FileSystem.resolve at hresolve ⊢
  rw [h.working]
  split at hresolve
  · exact nomatch hresolve
  · next hempty =>
    rw [if_neg hempty]
    split at hresolve
    · exact nomatch hresolve
    · next hnul => rw [if_neg hnul]; exact h.walk hresolve

theorem readText_eq_ok_iff {fs : FileSystem} {path : Path} {text : String} :
    fs.readText path = .ok text ↔
      ∃ place, fs.resolve path = .ok place ∧ fs.node? place = some (.file (.text text)) := by
  unfold readText
  cases fs.resolve path with
  | error e => simp
  | ok place =>
    cases hnode : fs.node? place with
    | none => simp [hnode]
    | some node =>
      cases node with
      | directory => simp [hnode]
      | file content => cases content <;> simp [hnode]

/-- A file that is written stands where its path leads, in the place of no directory. -/
theorem writeText_eq_ok {fs fs' : FileSystem} {path : Path} {text : String}
    (h : fs.writeText path text = .ok fs') :
    ∃ place, place ≠ [] ∧ fs.resolve path = .ok place ∧ fs.node? place ≠ some .directory ∧
      fs' = fs.set place (.file (.text text)) := by
  unfold writeText at h
  split at h
  · exact nomatch h
  · cases hresolve : fs.resolve path with
    | error e => simp [hresolve] at h
    | ok place =>
      rw [hresolve] at h
      simp only at h
      split at h
      · exact nomatch h
      · next hnode =>
        have hdirectory : fs.node? place ≠ some .directory := fun heq => hnode heq
        refine ⟨place, ?_, rfl, hdirectory, (Except.ok.inj h).symm⟩
        rintro rfl
        exact hdirectory rfl

theorem keepsDirectories_set {fs : FileSystem} {place : Place} (hroot : place ≠ [])
    (hplace : fs.node? place ≠ some .directory) (node : FileNode) :
    KeepsDirectories fs (fs.set place node) where
  working := rfl
  directories := by
    intro p hp
    rw [node?_set hroot, if_neg]
    · exact hp
    · rintro rfl
      exact hplace hp

theorem readText_writeText {fs fs' : FileSystem} {path : Path} {text : String}
    (h : fs.writeText path text = .ok fs') : fs'.readText path = .ok text := by
  obtain ⟨place, hroot, hresolve, hnode, rfl⟩ := writeText_eq_ok h
  refine readText_eq_ok_iff.mpr ⟨place, (keepsDirectories_set hroot hnode _).resolve hresolve, ?_⟩
  rw [node?_set hroot, if_pos rfl]

theorem walk_append (fs : FileSystem) (place : Place) (ps qs : List String) :
    fs.walk place (ps ++ qs) = (fs.walk place ps).bind fun p => fs.walk p qs := by
  induction ps generalizing place with
  | nil => rfl
  | cons part rest ih =>
    rw [List.cons_append, walk, walk]
    cases fs.node? place with
    | none => rfl
    | some node =>
      cases node with
      | file content => rfl
      | directory =>
        simp only [ih]
        split
        · rfl
        · split
          · rfl
          · split <;> rfl

theorem walk_name {name : String} (h : Path.IsName name) {fs : FileSystem} {place : Place}
    (hplace : fs.node? place = some .directory) :
    fs.walk place [name] = if isLong name then .error .nameTooLong else .ok (place ++ [name]) := by
  rw [walk, hplace]
  simp [h.notEmpty, h.notHere, h.notAbove, walk]

/-- What a walk to a name inside of a directory says about that directory. -/
theorem walk_name_eq_ok {name : String} (h : Path.IsName name) {fs : FileSystem}
    {place target : Place} (hwalk : fs.walk place [name] = .ok target) :
    fs.node? place = some .directory ∧ target = place ++ [name] := by
  cases hplace : fs.node? place with
  | none => simp [walk, hplace] at hwalk
  | some node =>
    cases node with
    | file content => simp [walk, hplace] at hwalk
    | directory =>
      rw [walk_name h hplace] at hwalk
      split at hwalk
      · exact nomatch hwalk
      · exact ⟨rfl, (Except.ok.inj hwalk).symm⟩

/-- The place of a directory into which paths lead. -/
def enter (fs : FileSystem) (dir : Path) : Except FileError Place :=
  fs.walk (if (Path.front dir).head? == some '/' then [] else fs.working) (Path.frontParts dir)

theorem resolve_join {name : String} (h : Path.IsName name) (fs : FileSystem) (dir : Path) :
    fs.resolve (Path.join dir name) =
      if (Path.join dir name).toList.contains '\x00' then .error .nulInName
      else (fs.enter dir).bind fun place => fs.walk place [name] := by
  have hempty : (Path.join dir name).isEmpty = false := by
    rw [← Bool.not_eq_true, String.isEmpty_iff]
    intro hjoin
    have hchars := h.toList_join dir
    rw [hjoin] at hchars
    exact h.notEmpty (String.toList_eq_nil_iff.mp (List.append_eq_nil_iff.mp hchars.symm).2)
  rw [resolve, hempty, h.isAbsolute_join, h.parts_join, walk_append]
  rfl

/-- Writing a file leaves all other names in its directory as they are read. -/
theorem readText_writeText_of_ne {fs fs' : FileSystem} {dir : Path} {name other text : String}
    (hname : Path.IsName name) (hother : Path.IsName other) (hne : name ≠ other)
    (h : fs.writeText (Path.join dir name) text = .ok fs') :
    fs'.readText (Path.join dir other) = fs.readText (Path.join dir other) := by
  obtain ⟨target, hroot, hresolve, hnode, rfl⟩ := writeText_eq_ok h
  have hkeeps := keepsDirectories_set hroot hnode (.file (.text text))
  -- the directory of both names is there before and after
  rw [resolve_join hname] at hresolve
  split at hresolve
  · exact nomatch hresolve
  · cases henter : fs.enter dir with
    | error e => rw [henter] at hresolve; exact nomatch hresolve
    | ok place =>
      rw [henter] at hresolve
      obtain ⟨hplace, rfl⟩ := walk_name_eq_ok hname hresolve
      have henter' : (fs.set (place ++ [name]) (.file (.text text))).enter dir = .ok place :=
        hkeeps.walk henter
      have hsame : (fs.set (place ++ [name]) (.file (.text text))).resolve (Path.join dir other) =
          fs.resolve (Path.join dir other) := by
        rw [resolve_join hother, resolve_join hother, henter, henter']
        simp only [Except.bind, walk_name hother hplace,
          walk_name hother (hkeeps.directories place hplace)]
      have hunchanged : (fs.set (place ++ [name]) (.file (.text text))).node? (place ++ [other]) =
          fs.node? (place ++ [other]) := by
        rw [node?_set hroot, if_neg]
        intro heq
        exact hne (List.singleton_inj.mp (List.append_cancel_left heq)).symm
      unfold readText
      rw [hsame]
      cases hother' : fs.resolve (Path.join dir other) with
      | error e => rfl
      | ok target' =>
        rw [resolve_join hother] at hother'
        split at hother'
        · exact nomatch hother'
        · rw [henter] at hother'
          obtain ⟨_, rfl⟩ := walk_name_eq_ok hother hother'
          simp only [hunchanged]

/-- The places that a walk along names comes to. -/
def waypoints (place : Place) : List String → List Place
  | [] => []
  | name :: rest =>
    let next := if name = ".." then place.dropLast else place ++ [name]
    next :: waypoints next rest

structure MakesDirectories (places : List Place) (fs fs' : FileSystem) : Prop where
  working : fs'.working = fs.working
  nodes : ∀ place, fs'.node? place = fs.node? place ∨
    (place ∈ places ∧ fs.node? place = none ∧ fs'.node? place = some .directory)

theorem MakesDirectories.keepsDirectories {places : List Place} {fs fs' : FileSystem}
    (h : MakesDirectories places fs fs') : KeepsDirectories fs fs' where
  working := h.working
  directories := by
    intro place hplace
    rcases h.nodes place with hsame | ⟨_, hnone, _⟩
    · rw [hsame, hplace]
    · rw [hnone] at hplace
      exact nomatch hplace

theorem MakesDirectories.readText {places : List Place} {fs fs' : FileSystem}
    (h : MakesDirectories places fs fs') {path : Path} {text : String}
    (hread : fs.readText path = .ok text) : fs'.readText path = .ok text := by
  obtain ⟨place, hresolve, hnode⟩ := readText_eq_ok_iff.mp hread
  refine readText_eq_ok_iff.mpr ⟨place, h.keepsDirectories.resolve hresolve, ?_⟩
  rcases h.nodes place with hsame | ⟨_, hnone, _⟩
  · rw [hsame, hnode]
  · rw [hnone] at hnode
    exact nomatch hnode

theorem makesDirectories_refl (places : List Place) (fs : FileSystem) :
    MakesDirectories places fs fs :=
  ⟨rfl, fun _ => .inl rfl⟩

theorem makesDirectories_makeDirectories (fs : FileSystem) (place : Place) (names : List String) :
    MakesDirectories (waypoints place names) fs (fs.makeDirectories place names).2 := by
  induction names generalizing fs place with
  | nil => exact makesDirectories_refl _ fs
  | cons name rest ih =>
    rw [makeDirectories, waypoints]
    generalize (if name = ".." then place.dropLast else place ++ [name]) = next
    split
    · exact makesDirectories_refl _ fs
    · cases hnext : fs.node? next with
      | some node =>
        cases node with
        | file content => exact makesDirectories_refl _ fs
        | directory =>
          have hrest := ih fs next
          refine ⟨hrest.working, fun p => (hrest.nodes p).imp_right fun hmade => ?_⟩
          exact ⟨List.mem_cons_of_mem _ hmade.1, hmade.2⟩
      | none =>
        have hroot : next ≠ [] := by
          rintro rfl
          exact nomatch hnext
        have hrest := ih (fs.set next .directory) next
        refine ⟨hrest.working, fun p => ?_⟩
        have hp := hrest.nodes p
        rw [node?_set hroot] at hp
        -- the new directory itself, and then what the rest of the walk does elsewhere
        by_cases heq : p = next
        · subst heq
          rw [if_pos rfl] at hp
          rcases hp with hsame | ⟨_, hnone, _⟩
          · exact .inr ⟨List.mem_cons_self, hnext, hsame⟩
          · exact nomatch hnone
        · rw [if_neg heq] at hp
          exact hp.imp_right fun hmade => ⟨List.mem_cons_of_mem _ hmade.1, hmade.2⟩

/-- The places of the directories above a file, as its path names them. -/
def parentPlaces (fs : FileSystem) (path : Path) : List Place :=
  match Path.parentNames? path with
  | none => []
  | some names => waypoints (if Path.isAbsolute path then [] else fs.working) names

structure ChangesOnly (path : Path) (fs fs' : FileSystem) : Prop where
  working : fs'.working = fs.working
  nodes : ∀ place, fs'.node? place = fs.node? place ∨
    (place ∈ fs.parentPlaces path ∧ fs.node? place = none ∧ fs'.node? place = some .directory) ∨
    (fs'.resolve path = .ok place ∧ fs.node? place ≠ some .directory ∧
      ∃ text, fs'.node? place = some (.file (.text text)))

theorem ChangesOnly.refl (path : Path) (fs : FileSystem) : ChangesOnly path fs fs :=
  ⟨rfl, fun _ => .inl rfl⟩

theorem ChangesOnly.keepsDirectories {path : Path} {fs fs' : FileSystem}
    (h : ChangesOnly path fs fs') : KeepsDirectories fs fs' where
  working := h.working
  directories := by
    intro place hplace
    rcases h.nodes place with hsame | ⟨_, hnone, _⟩ | ⟨_, hdirectory, _⟩
    · rw [hsame, hplace]
    · rw [hnone] at hplace
      exact nomatch hplace
    · exact absurd hplace hdirectory

theorem parentPlaces_congr {fs fs' : FileSystem} (h : fs'.working = fs.working) (path : Path) :
    fs'.parentPlaces path = fs.parentPlaces path := by
  rw [parentPlaces, parentPlaces, h]

theorem ChangesOnly.trans {path : Path} {fs fs' fs'' : FileSystem} (h : ChangesOnly path fs fs')
    (h' : ChangesOnly path fs' fs'') : ChangesOnly path fs fs'' where
  working := h'.working.trans h.working
  nodes := by
    intro place
    have hlater := h'.nodes place
    rw [parentPlaces_congr h.working] at hlater
    -- what became of the place first decides what may become of it afterwards
    rcases h.nodes place with hsame | ⟨hmem, hnone, hmade⟩ | ⟨hresolve, hdirectory, text, hwritten⟩
    · rw [hsame] at hlater
      exact hlater
    · rw [hmade] at hlater
      rcases hlater with hsame' | ⟨_, hnone', _⟩ | ⟨_, hdirectory', _⟩
      · exact .inr (.inl ⟨hmem, hnone, hsame'⟩)
      · exact nomatch hnone'
      · exact absurd rfl hdirectory'
    · rw [hwritten] at hlater
      rcases hlater with hsame' | ⟨_, hnone', _⟩ | ⟨hresolve', _, hwritten'⟩
      · exact .inr (.inr ⟨h'.keepsDirectories.resolve hresolve, hdirectory, text, hsame'⟩)
      · exact nomatch hnone'
      · exact .inr (.inr ⟨hresolve', hdirectory, hwritten'⟩)

theorem changesOnly_writeText {fs fs' : FileSystem} {path : Path} {text : String}
    (h : fs.writeText path text = .ok fs') : ChangesOnly path fs fs' := by
  obtain ⟨place, hroot, hresolve, hnode, rfl⟩ := writeText_eq_ok h
  refine ⟨rfl, fun p => ?_⟩
  rw [node?_set hroot]
  by_cases heq : p = place
  · subst heq
    have hresolve' := (keepsDirectories_set hroot hnode (.file (.text text))).resolve hresolve
    exact .inr (.inr ⟨hresolve', hnode, text, if_pos rfl⟩)
  · exact .inl (if_neg heq)

theorem changesOnly_createDirectories {fs : FileSystem} {path : Path} {names : List String}
    (hnames : Path.parentNames? path = some names) :
    ChangesOnly path fs (fs.createDirectories (Path.isAbsolute path) names).2 := by
  have hplaces : fs.parentPlaces path =
      waypoints (if Path.isAbsolute path then [] else fs.working) names := by
    rw [parentPlaces, hnames]
  rw [createDirectories]
  split
  · exact .refl path fs
  · have hmakes := makesDirectories_makeDirectories fs
      (if Path.isAbsolute path then [] else fs.working) names
    rw [← hplaces] at hmakes
    exact ⟨hmakes.working, fun place => (hmakes.nodes place).imp_right .inl⟩

end FileSystem

end PlaceholderScripts
