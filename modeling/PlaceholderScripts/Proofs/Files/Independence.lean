import PlaceholderScripts.Proofs.Files.Putting

/-!
# Files that are put side by side

What comes of putting a file depends only on the places on the way to it and on the file's own place. Hence it
is the same after other files were put elsewhere, whose directories may be some of those on the way. The changes
are then the same too: each place that is changed is left as it would be left without the other files.
-/

namespace PlaceholderScripts

namespace FileSystem

section Waypoints

theorem waypoints_cons (place : Place) (name : String) (rest : List String) :
    waypoints place (name :: rest) = Path.step place name :: waypoints (Path.step place name) rest := rfl

theorem waypoints_concat (place : Place) (names : List String) (last : String) :
    waypoints place (names ++ [last]) =
      waypoints place names ++ [Path.follow place (names ++ [last])] := by
  induction names generalizing place with
  | nil => rfl
  | cons name rest ih => rw [List.cons_append, waypoints_cons, ih, waypoints_cons]; rfl

/-- The places on the way of a path are those of the directories above its end, and the end itself. -/
theorem mem_waypoints_names {fs : FileSystem} {path : Path} {place : Place}
    (h : place ∈ waypoints (fs.start path) (Path.names path)) :
    place ∈ fs.parentPlaces path ∨ place = fs.destination path := by
  by_cases hnames : Path.names path = []
  · rw [hnames] at h
    exact absurd h List.not_mem_nil
  · have hparents : fs.parentPlaces path = waypoints (fs.start path) (Path.names path).dropLast := by
      rw [parentPlaces, Path.parentNames?, List.isEmpty_eq_false_iff.mpr hnames]
      rfl
    rw [← List.dropLast_append_getLast hnames, waypoints_concat, List.mem_append, List.mem_singleton,
      List.dropLast_append_getLast hnames] at h
    rwa [hparents]

theorem walk_congr {fs fs' : FileSystem} {place : Place} {ps : List String}
    (h : ∀ p ∈ place :: waypoints place (ps.filter Path.isNaming), fs'.node? p = fs.node? p) :
    fs'.walk place ps = fs.walk place ps := by
  induction ps generalizing place with
  | nil => rfl
  | cons part rest ih =>
    rw [walk, walk, h place List.mem_cons_self]
    cases fs.node? place with
    | none => rfl
    | some node =>
      cases node with
      | file content => rfl
      | directory =>
        simp only
        by_cases hpart : Path.isNaming part = true
        · rw [List.filter_cons_of_pos hpart, waypoints_cons] at h
          have hrest := ih fun p hp => h p (List.mem_cons_of_mem _ hp)
          have hnaming : ¬ (part = "" || part = ".") = true := by simpa [Path.isNaming] using hpart
          rw [if_neg hnaming, if_neg hnaming]
          rw [Path.step] at hrest
          split
          · next habove => rwa [if_pos habove] at hrest
          · next habove =>
            rw [if_neg habove] at hrest
            rw [hrest]
        · rw [List.filter_cons_of_neg hpart] at h
          have hskip : (part = "" || part = ".") = true := by
            simpa [Path.isNaming, or_iff_not_imp_left] using hpart
          rw [if_pos hskip, if_pos hskip]
          exact ih h

theorem resolve_congr {fs fs' : FileSystem} {path : Path} (hworking : fs'.working = fs.working)
    (hstart : fs'.node? (fs.start path) = fs.node? (fs.start path))
    (hparents : ∀ p ∈ fs.parentPlaces path, fs'.node? p = fs.node? p)
    (htarget : fs'.node? (fs.destination path) = fs.node? (fs.destination path)) :
    fs'.resolve path = fs.resolve path := by
  rw [resolve, resolve, hworking]
  have hwalk : fs'.walk (fs.start path) (Path.parts path) = fs.walk (fs.start path) (Path.parts path) := by
    refine walk_congr fun p hp => ?_
    rcases List.mem_cons.mp hp with rfl | hp
    · exact hstart
    · rcases mem_waypoints_names hp with hp | rfl
      · exact hparents p hp
      · exact htarget
  rw [start, Path.start] at hwalk
  rw [hwalk]

end Waypoints

section Changes

/-- The change from the second file system to the fourth is the one from the first to the third: the same places
become what they became there. -/
structure SameChange (fs fs' after after' : FileSystem) : Prop where
  working : after'.working = fs'.working
  changed : ∀ p, after.node? p ≠ fs.node? p → after'.node? p = after.node? p
  unchanged : ∀ p, after.node? p = fs.node? p → after'.node? p = fs'.node? p

namespace SameChange

variable {fs fs' : FileSystem}

theorem refl (fs fs' : FileSystem) : SameChange fs fs' fs fs' :=
  ⟨rfl, fun _ hne => absurd rfl hne, fun _ _ => rfl⟩

theorem set {place : Place} (hroot : place ≠ []) (h : fs'.node? place = fs.node? place)
    (node : FileNode) : SameChange fs fs' (fs.set place node) (fs'.set place node) := by
  refine ⟨rfl, fun p hne => ?_, fun p heq => ?_⟩
  · rw [node?_set hroot] at hne ⊢
    by_cases hp : p = place
    · rw [if_pos hp, node?_set hroot, if_pos hp]
    · exact absurd (if_neg hp) hne
  · rw [node?_set hroot] at heq ⊢
    by_cases hp : p = place
    · rw [if_pos hp] at heq ⊢
      rw [heq, hp, h]
    · rw [if_neg hp]

theorem set_made {place : Place} (hroot : place ≠ []) (hmade : fs'.node? place = some .directory) :
    SameChange fs fs' (fs.set place .directory) fs' := by
  refine ⟨rfl, fun p hne => ?_, fun _ _ => rfl⟩
  rw [node?_set hroot] at hne ⊢
  by_cases hp : p = place
  · rw [if_pos hp, hp, hmade]
  · exact absurd (if_neg hp) hne

/-- Changes follow upon each other, where no place is changed twice. -/
theorem trans {mid mid' after after' : FileSystem} (h : SameChange fs fs' mid mid')
    (h' : SameChange mid mid' after after')
    (honce : ∀ p, after.node? p ≠ mid.node? p → mid.node? p = fs.node? p) :
    SameChange fs fs' after after' := by
  refine ⟨h'.working.trans h.working, fun p hne => ?_, fun p heq => ?_⟩
  · by_cases hlater : after.node? p = mid.node? p
    · rw [h'.unchanged p hlater, hlater, h.changed p (hlater ▸ hne)]
    · exact h'.changed p hlater
  · have hlater : after.node? p = mid.node? p := by
      by_contra hne
      exact hne (heq.trans (honce p hne).symm)
    rw [h'.unchanged p hlater, h.unchanged p (hlater ▸ heq)]

end SameChange

def AgreesOrMade (fs fs' : FileSystem) (place : Place) : Prop :=
  fs'.node? place = fs.node? place ∨ (fs.node? place = none ∧ fs'.node? place = some .directory)

theorem AgreesOrMade.set {fs fs' : FileSystem} {place p : Place} (hroot : place ≠ [])
    (h : AgreesOrMade fs fs' p) (hthere : fs'.node? place = some .directory) :
    AgreesOrMade (fs.set place .directory) fs' p := by
  rw [AgreesOrMade, node?_set hroot]
  by_cases hp : p = place
  · rw [if_pos hp, hp]
    exact .inl hthere
  · rw [if_neg hp]
    exact h

theorem agreesOrMade_set_set {fs fs' : FileSystem} {place p : Place} (hroot : place ≠ [])
    (h : AgreesOrMade fs fs' p) :
    AgreesOrMade (fs.set place .directory) (fs'.set place .directory) p := by
  rw [AgreesOrMade, node?_set hroot, node?_set hroot]
  by_cases hp : p = place
  · rw [if_pos hp, if_pos hp]
    exact .inl rfl
  · rw [if_neg hp, if_neg hp]
    exact h

/-- Below a directory that was made, the rest of the walk makes others. -/
theorem node?_set_of_makeDirectories_ne {fs : FileSystem} {next place : Place} (hroot : next ≠ [])
    (rest : List String)
    (h : ((fs.set next .directory).makeDirectories next rest).2.node? place ≠
      (fs.set next .directory).node? place) :
    (fs.set next .directory).node? place = fs.node? place := by
  have hnodes := (makesDirectories_makeDirectories (fs.set next .directory) next rest).nodes place
  obtain ⟨-, hnone, -⟩ := hnodes.resolve_left h
  rw [node?_set hroot] at hnone ⊢
  by_cases hplace : place = next
  · rw [if_pos hplace] at hnone
    cases hnone
  · exact if_neg hplace

/-- Directories are made in the same way where some of them are there already. -/
theorem sameChange_makeDirectories {fs fs' : FileSystem} {place : Place} {names : List String}
    (h : ∀ p ∈ waypoints place names, AgreesOrMade fs fs' p) :
    (fs'.makeDirectories place names).1 = (fs.makeDirectories place names).1 ∧
      SameChange fs fs' (fs.makeDirectories place names).2 (fs'.makeDirectories place names).2 := by
  induction names generalizing fs fs' place with
  | nil => exact ⟨rfl, .refl fs fs'⟩
  | cons name rest ih =>
    rw [waypoints] at h
    rw [makeDirectories, makeDirectories]
    generalize (if name = ".." then place.dropLast else place ++ [name]) = next at h ⊢
    obtain ⟨hnext, hrest⟩ := List.forall_mem_cons.mp h
    split
    · exact ⟨rfl, .refl fs fs'⟩
    · cases hthere : fs.node? next with
      | some node =>
        have hsame : fs'.node? next = some node := by
          rcases hnext with hsame | ⟨hnone, -⟩
          · exact hsame.trans hthere
          · rw [hthere] at hnone
            cases hnone
        rw [hsame]
        cases node with
        | file content => exact ⟨rfl, .refl fs fs'⟩
        | directory => exact ih hrest
      | none =>
        have hroot : next ≠ [] := by
          rintro rfl
          cases hthere
        rcases hnext with hsame | ⟨-, hmade⟩
        · rw [hsame, hthere]
          obtain ⟨hresult, hchange⟩ := ih fun p hp => agreesOrMade_set_set hroot (hrest p hp)
          exact ⟨hresult, (SameChange.set hroot hsame .directory).trans hchange fun _ =>
            node?_set_of_makeDirectories_ne hroot rest⟩
        · rw [hmade]
          obtain ⟨hresult, hchange⟩ := ih fun p hp => (hrest p hp).set hroot hmade
          exact ⟨hresult, (SameChange.set_made hroot hmade).trans hchange fun _ =>
            node?_set_of_makeDirectories_ne hroot rest⟩

/-- Where a path leads to the same, a text is written in the same place, or with the same error nowhere. -/
theorem writeText_cases {fs fs' : FileSystem} {path : Path} (hresolve : fs'.resolve path = fs.resolve path)
    (htarget : ∀ place, fs.resolve path = .ok place → fs'.node? place = fs.node? place) (text : String) :
    (∃ e, fs.writeText path text = .error e ∧ fs'.writeText path text = .error e) ∨
      ∃ place, place ≠ [] ∧ fs.resolve path = .ok place ∧ fs.node? place ≠ some .directory ∧
        fs.writeText path text = .ok (fs.set place (.file (.text text))) ∧
        fs'.writeText path text = .ok (fs'.set place (.file (.text text))) := by
  cases hwrites : fs.writeText path text with
  | error e =>
    refine .inl ⟨e, rfl, ?_⟩
    rw [writeText] at hwrites ⊢
    split at hwrites
    · next hslash => rwa [if_pos hslash]
    · next hslash =>
      rw [if_neg hslash, hresolve]
      cases hplace : fs.resolve path with
      | error e => rwa [hplace] at hwrites
      | ok place =>
        simp only [hplace, htarget place hplace] at hwrites ⊢
        split at hwrites
        · exact hwrites
        · cases hwrites
  | ok written =>
    obtain ⟨place, hroot, hplace, hfile, rfl⟩ := writeText_eq_ok hwrites
    refine .inr ⟨place, hroot, hplace, hfile, rfl, ?_⟩
    rw [writeText] at hwrites ⊢
    split at hwrites
    · cases hwrites
    · next hslash =>
      rw [if_neg hslash, hresolve, hplace]
      simp only
      split
      · next hdirectory => exact absurd (htarget place hplace ▸ hdirectory) hfile
      · rfl

/-- What was done to the second file system is of no matter to a file: the directories above it may have been
made, and its place is as it was. -/
structure Beside (path : Path) (fs fs' : FileSystem) : Prop where
  working : fs'.working = fs.working
  start : fs'.node? (fs.start path) = fs.node? (fs.start path)
  parents : ∀ p ∈ fs.parentPlaces path, AgreesOrMade fs fs' p
  target : fs'.node? (fs.destination path) = fs.node? (fs.destination path)

namespace Beside

variable {path : Path} {fs fs' : FileSystem}

theorem makeParents (h : Beside path fs fs') :
    (fs'.makeParents path).1 = (fs.makeParents path).1 ∧
      SameChange fs fs' (fs.makeParents path).2 (fs'.makeParents path).2 := by
  have hparents := h.parents
  rw [parentPlaces] at hparents
  rw [FileSystem.makeParents, FileSystem.makeParents]
  cases hnames : Path.parentNames? path with
  | none => exact ⟨rfl, .refl fs fs'⟩
  | some names =>
    rw [hnames] at hparents
    simp only [createDirectories, h.working]
    split
    · exact ⟨rfl, .refl fs fs'⟩
    · exact sameChange_makeDirectories hparents

/-- Once the directories above the file are made, its path leads to the same. -/
theorem resolve (h : Beside path fs fs') {made made' : FileSystem}
    (hmade : fs.makeParents path = (.ok (), made)) (hmade' : fs'.makeParents path = (.ok (), made')) :
    made'.resolve path = made.resolve path ∧
      ∀ place, made.resolve path = .ok place → made'.node? place = made.node? place := by
  have hworking : made.working = fs.working := by
    rw [← (makesDirectories_makeParents fs path).working, hmade]
  have hchange := h.makeParents.2
  rw [hmade, hmade'] at hchange
  have hkept (p : Place) (hp : fs'.node? p = fs.node? p) : made'.node? p = made.node? p := by
    by_cases hsame : made.node? p = fs.node? p
    · rw [hchange.unchanged p hsame, hp, hsame]
    · exact hchange.changed p hsame
  have hdestination : made.destination path = fs.destination path := by
    rw [destination, destination, hworking]
  refine ⟨resolve_congr (hchange.working.trans (h.working.trans hworking.symm)) ?_ ?_ ?_, ?_⟩
  · rw [FileSystem.start, hworking]
    exact hkept _ h.start
  · intro p hp
    rw [parentPlaces_congr hworking] at hp
    have hp' : p ∈ fs'.parentPlaces path := by rwa [parentPlaces_congr h.working]
    rw [directory_of_makeParents hmade p hp, directory_of_makeParents hmade' p hp']
  · rw [hdestination]
    exact hkept _ h.target
  · intro place hplace
    obtain rfl : place = fs.destination path := (eq_destination_of_resolve hplace).trans hdestination
    exact hkept _ h.target

/-- A file is put in the same way, with the same success, as if nothing had been done elsewhere. -/
theorem put (h : Beside path fs fs') (text : String) :
    (fs'.put path text).1 = (fs.put path text).1 ∧
      SameChange fs fs' (fs.put path text).2 (fs'.put path text).2 := by
  obtain ⟨hresult, hchange⟩ := h.makeParents
  have hmakes := makesDirectories_makeParents fs path
  rw [FileSystem.put, FileSystem.put]
  rcases hmade : fs.makeParents path with ⟨failed | ⟨⟩, made⟩ <;>
    rcases hmade' : fs'.makeParents path with ⟨failed' | ⟨⟩, made'⟩ <;>
    rw [hmade] at hresult hchange hmakes <;> rw [hmade'] at hresult hchange
  · exact ⟨hresult, hchange⟩
  · cases hresult
  · cases hresult
  · obtain ⟨hresolve, htarget⟩ := h.resolve hmade hmade'
    rcases writeText_cases hresolve htarget text with
      ⟨e, hfails, hfails'⟩ | ⟨place, hroot, hplace, hfile, hwrites, hwrites'⟩
    · simp only [hfails, hfails']
      exact ⟨trivial, hchange⟩
    · simp only [hwrites, hwrites']
      refine ⟨trivial, hchange.trans (.set hroot (htarget place hplace) _) fun p hne => ?_⟩
      -- only the file is changed by the second step, and no directory was made in its place
      rw [node?_set hroot] at hne
      by_cases hp : p = place
      · refine (hmakes.nodes p).resolve_right ?_
        rintro ⟨-, -, hdirectory⟩
        exact hfile (hp ▸ hdirectory)
      · exact absurd (if_neg hp) hne

end Beside

end Changes

structure Apart (fs : FileSystem) (path path' : Path) : Prop where
  different : fs.destination path ≠ fs.destination path'
  notAbove : fs.destination path ∉ fs.parentPlaces path'
  notBelow : fs.destination path' ∉ fs.parentPlaces path

instance (fs : FileSystem) (path path' : Path) : Decidable (fs.Apart path path') :=
  decidable_of_iff
    (fs.destination path ≠ fs.destination path' ∧ fs.destination path ∉ fs.parentPlaces path' ∧
      fs.destination path' ∉ fs.parentPlaces path)
    ⟨fun h => ⟨h.1, h.2.1, h.2.2⟩, fun h => ⟨h.different, h.notAbove, h.notBelow⟩⟩

theorem Apart.symm {fs : FileSystem} {path path' : Path} (h : fs.Apart path path') :
    fs.Apart path' path :=
  ⟨h.different.symm, h.notBelow, h.notAbove⟩

end FileSystem

end PlaceholderScripts
