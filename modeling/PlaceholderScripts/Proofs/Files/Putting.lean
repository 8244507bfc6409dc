import PlaceholderScripts.Proofs.Files.Destinations
import PlaceholderScripts.Proofs.Files.Rewriting

/-!
# Putting a file

To put a file somewhere is to make the directories above it and to write it. This changes the places on the way
to the file and the file's own, and no others. A file that could be put is put again with no change.
-/

namespace PlaceholderScripts

namespace FileSystem

/-- Makes the directories above a file. -/
def makeParents (fs : FileSystem) (path : Path) : Except FileError Unit × FileSystem :=
  match Path.parentNames? path with
  | none => (.ok (), fs)
  | some names => fs.createDirectories (Path.isAbsolute path) names

/-- Makes the directories above a file, and writes the file. -/
def put (fs : FileSystem) (path : Path) (text : String) : Except FileError Unit × FileSystem :=
  match fs.makeParents path with
  | (.error e, made) => (.error e, made)
  | (.ok (), made) =>
    match made.writeText path text with
    | .error e => (.error e, made)
    | .ok written => (.ok (), written)

def destination (fs : FileSystem) (path : Path) : Place := Path.destination fs.working path

def start (fs : FileSystem) (path : Path) : Place := Path.start fs.working path

theorem makesDirectories_makeParents (fs : FileSystem) (path : Path) :
    MakesDirectories (fs.parentPlaces path) fs (fs.makeParents path).2 := by
  rw [parentPlaces, makeParents]
  cases Path.parentNames? path with
  | none => exact makesDirectories_refl [] fs
  | some names =>
    simp only
    rw [createDirectories]
    generalize (if Path.isAbsolute path then [] else fs.working) = place
    split
    · exact makesDirectories_refl _ fs
    · exact makesDirectories_makeDirectories fs place names

theorem directory_of_makeParents {fs made : FileSystem} {path : Path}
    (h : fs.makeParents path = (.ok (), made)) :
    ∀ p ∈ fs.parentPlaces path, made.node? p = some .directory := by
  rw [parentPlaces]
  rw [makeParents] at h
  cases hnames : Path.parentNames? path with
  | none => exact fun p hp => absurd hp List.not_mem_nil
  | some names =>
    rw [hnames] at h
    simp only [createDirectories] at h
    split at h
    · cases h
    · exact directory_of_makeDirectories h

theorem makeParents_again {fs made fs' : FileSystem} {path : Path}
    (h : fs.makeParents path = (.ok (), made)) (hkeeps : KeepsDirectories made fs') :
    fs'.makeParents path = (.ok (), fs') := by
  rw [makeParents] at h ⊢
  cases hnames : Path.parentNames? path with
  | none => rfl
  | some names =>
    rw [hnames] at h
    exact createDirectories_again h hkeeps

/-- Either something fails once what directories can be made are made, or the file is written after that. -/
theorem put_cases (fs : FileSystem) (path : Path) (text : String) :
    (∃ e, fs.put path text = (.error e, (fs.makeParents path).2)) ∨
      ∃ made written, fs.makeParents path = (.ok (), made) ∧ made.writeText path text = .ok written ∧
        fs.put path text = (.ok (), written) := by
  rw [put]
  rcases fs.makeParents path with ⟨failed | ⟨⟩, made⟩
  · exact .inl ⟨failed, rfl⟩
  · cases hwritten : made.writeText path text with
    | error e =>
      simp only [hwritten]
      exact .inl ⟨e, rfl⟩
    | ok written =>
      simp only [hwritten]
      exact .inr ⟨made, written, rfl, hwritten, rfl⟩

/-- A file that could be put can be put again, and then nothing is changed any more. -/
theorem put_again {fs : FileSystem} {path : Path} {text : String} (h : (fs.put path text).1 = .ok ()) :
    (fs.put path text).2.put path text = (.ok (), (fs.put path text).2) := by
  rcases fs.put_cases path text with ⟨e, hput⟩ | ⟨made, written, hmade, hwritten, hput⟩
  · rw [hput] at h
    cases h
  · have hkeeps : KeepsDirectories made written := by
      obtain ⟨place, hroot, -, hnode, rfl⟩ := writeText_eq_ok hwritten
      exact keepsDirectories_set hroot hnode _
    rw [hput, put, makeParents_again hmade hkeeps]
    simp only [writeText_again hwritten]

theorem working_put (fs : FileSystem) (path : Path) (text : String) :
    (fs.put path text).2.working = fs.working := by
  have hmakes := makesDirectories_makeParents fs path
  rcases fs.put_cases path text with ⟨e, hput⟩ | ⟨made, written, hmade, hwritten, hput⟩
  · rw [hput, hmakes.working]
  · rw [hmade] at hmakes
    obtain ⟨_, -, -, -, rfl⟩ := writeText_eq_ok hwritten
    rw [hput]
    exact hmakes.working

/-- What becomes of a place when a file is put: a missing directory is made on the way to it, and it holds the text
if nothing failed. -/
theorem node?_put (fs : FileSystem) (path : Path) (text : String) (place : Place) :
    (fs.put path text).2.node? place = fs.node? place ∨
      (place ∈ fs.parentPlaces path ∧ fs.node? place = none ∧
        (fs.put path text).2.node? place = some .directory) ∨
      (place = fs.destination path ∧ fs.node? place ≠ some .directory ∧
        (fs.put path text).1 = .ok () ∧ (fs.put path text).2.node? place = some (.file (.text text))) := by
  have hmakes := makesDirectories_makeParents fs path
  rcases fs.put_cases path text with ⟨e, hput⟩ | ⟨made, written, hmade, hwritten, hput⟩
  · rw [hput]
    exact (hmakes.nodes place).imp_right .inl
  · rw [hmade] at hmakes
    obtain ⟨target, hroot, hresolve, hfile, rfl⟩ := writeText_eq_ok hwritten
    have htarget : target = fs.destination path := by
      rw [eq_destination_of_resolve hresolve, hmakes.working, destination]
    rw [hput]
    simp only [node?_set hroot]
    by_cases hplace : place = target
    · have hdirectory : fs.node? place ≠ some .directory := fun h =>
        hfile (hplace ▸ hmakes.keepsDirectories.directories place h)
      exact .inr (.inr ⟨hplace.trans htarget, hdirectory, trivial, if_pos hplace⟩)
    · rw [if_neg hplace]
      exact (hmakes.nodes place).imp_right .inl

end FileSystem

end PlaceholderScripts
