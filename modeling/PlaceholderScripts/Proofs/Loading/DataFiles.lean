import Mathlib.Data.List.DropRight
import PlaceholderScripts.Proofs.Files.Destinations
import PlaceholderScripts.Proofs.Loading.DataDirectory

/-!
# Whose data file it is

The data file of a script is named by putting the script's identifier into a path. What stands behind the
last slash of the identifier becomes the name of the file, and what stands in front of it is walked from the
data directory. So identifiers without a slash have files of their own inside of the data directory, while
identifiers with slashes may share a file with others or name one that lies elsewhere.
-/

namespace PlaceholderScripts

/-- The one place lies in the directory at the other, or in one below it. -/
def Place.Inside (dir place : Place) : Prop := dir <+: place ∧ place ≠ dir

instance (dir place : Place) : Decidable (dir.Inside place) :=
  inferInstanceAs (Decidable (_ ∧ _))

theorem Place.inside_concat_iff {dir place : Place} {name : String} :
    dir.Inside (place ++ [name]) ↔ dir <+: place := by
  constructor
  · rintro ⟨hbelow, hne⟩
    exact (List.prefix_concat_iff.mp hbelow).resolve_left fun heq => hne heq.symm
  · intro hbelow
    refine ⟨hbelow.trans (List.prefix_append _ _), fun heq => ?_⟩
    have hlength := hbelow.length_le
    rw [← heq, List.length_append, List.length_singleton] at hlength
    omega

namespace Path

def leaf (text : String) : String := String.ofList (text.toList.rtakeWhile (· ≠ '/'))

def lead (text : String) : String := String.ofList (text.toList.rdropWhile (· ≠ '/'))

@[simp] theorem lead_append_leaf (text : String) : lead text ++ leaf text = text := by
  rw [lead, leaf, ← String.ofList_append, List.rdropWhile_append_rtakeWhile, String.ofList_toList]

theorem slash_not_mem_leaf (text : String) : '/' ∉ (leaf text).toList := by
  rw [leaf, String.toList_ofList]
  intro hmem
  simpa using List.mem_rtakeWhile_imp hmem

theorem lead_eq_empty_or (text : String) :
    lead text = "" ∨ (lead text).toList.getLast? = some '/' := by
  rw [lead, String.toList_ofList]
  by_cases hnil : text.toList.rdropWhile (· ≠ '/') = []
  · rw [hnil]
    exact .inl rfl
  · right
    have hlast := List.rdropWhile_last_not (· ≠ '/') text.toList hnil
    rw [List.getLast?_eq_some_getLast hnil]
    simpa using hlast

theorem lead_of_not_mem {text : String} (h : '/' ∉ text.toList) : lead text = "" := by
  have hnil : text.toList.rdropWhile (· ≠ '/') = [] := by
    rw [List.rdropWhile_eq_nil_iff]
    intro c hc
    simpa using ne_of_mem_of_not_mem hc h
  rw [lead, hnil]

theorem leaf_of_not_mem {text : String} (h : '/' ∉ text.toList) : leaf text = text := by
  have htext := lead_append_leaf text
  rwa [lead_of_not_mem h, String.empty_append] at htext

/-- Joining keeps both texts as they are where the first one is done with a slash. -/
theorem join_of_ends {front rest : Path} (hfront : front = "" ∨ front.toList.getLast? = some '/')
    (hrest : isAbsolute rest = false) : join front rest = front ++ rest := by
  rcases hfront with rfl | hlast
  · rw [join, if_pos (by simp), String.empty_append]
  · rw [join, hrest, Bool.false_or, if_pos hlast]
    split
    · next hempty => rw [String.isEmpty_iff.mp hempty, String.empty_append]
    · rfl

def here : Path := "./"

theorem isAbsolute_here : isAbsolute here = false := by decide

theorem destination_here (working : Place) : destination working here = working := by
  have hnames : names here = [] := by decide
  rw [destination, hnames, start, isAbsolute_here]
  rfl

end Path

namespace Loader

variable (loader : Loader) (working : Place)

theorem destination_front_dataName {front name : String}
    (hfront : front = "" ∨ front.toList.getLast? = some '/') (hname : '/' ∉ name.toList) :
    Path.destination working (dataName (front ++ name)) =
      Path.destination working front ++ [dataName name] := by
  have hisName : Path.IsName (dataName name) := isName_dataFile hname
  have hjoin : dataName (front ++ name) = Path.join front (dataName name) := by
    rw [Path.join_of_ends hfront hisName.isAbsolute, dataName, dataName, String.append_assoc]
  rw [hjoin, Path.destination_join, hisName.destination_eq]

/-- The data file has its name behind the last slash of the identifier, and lies where the rest leads from
the data directory. -/
theorem destination_dataFile (identifier : String) :
    Path.destination working (loader.dataFile identifier) =
      Path.destination (Path.destination working loader.dataDir) (Path.lead identifier) ++
        [dataName (Path.leaf identifier)] := by
  have hname := destination_front_dataName (Path.destination working loader.dataDir)
    (Path.lead_eq_empty_or identifier) (Path.slash_not_mem_leaf identifier)
  rw [Path.lead_append_leaf] at hname
  rw [dataFile, Path.destination_join]
  exact hname

/-- Another identifier for the same file: it stays in the directory once more. -/
theorem exists_same_dataFile (identifier : String) :
    ∃ other, other ≠ identifier ∧ Path.destination working (loader.dataFile other) =
      Path.destination working (loader.dataFile identifier) := by
  have hfront : Path.join (Path.lead identifier) Path.here = Path.lead identifier ++ Path.here :=
    Path.join_of_ends (Path.lead_eq_empty_or identifier) Path.isAbsolute_here
  have hends : (Path.lead identifier ++ Path.here).toList.getLast? = some '/' := by
    rw [String.toList_append, List.getLast?_append]
    rfl
  refine ⟨Path.lead identifier ++ Path.here ++ Path.leaf identifier, fun heq => ?_, ?_⟩
  · have hlength := congrArg String.length heq
    nth_rewrite 3 [← Path.lead_append_leaf identifier] at hlength
    simp only [String.length_append] at hlength
    have hhere : Path.here.length = 2 := rfl
    omega
  · have hname := destination_front_dataName (Path.destination working loader.dataDir) (.inr hends)
      (Path.slash_not_mem_leaf identifier)
    rw [loader.destination_dataFile working identifier, dataFile, Path.destination_join]
    refine hname.trans ?_
    rw [← hfront, Path.destination_join, Path.destination_here]

/-- Two scripts share a data file exactly if their identifiers end alike and the parts in front of that lead
to the same directory. Where the part in front leaves the data directory, so does the file. Scripts without
slashes in their identifiers have files of their own inside of the data directory, but no script has a file
that could not be named by another identifier too. -/
theorem dataFiles_shared_iff (loader : Loader) (working : Place) :
    let dir := Path.destination working loader.dataDir
    let place (identifier : String) := Path.destination working (loader.dataFile identifier)
    (∀ files : FileSystem, files.working = working → ∀ i p,
      files.resolve (loader.dataFile i) = .ok p → p = place i) ∧
    (∀ i j, place i = place j ↔ Path.leaf i = Path.leaf j ∧
      Path.destination dir (Path.lead i) = Path.destination dir (Path.lead j)) ∧
    (∀ i, dir.Inside (place i) ↔ dir <+: Path.destination dir (Path.lead i)) ∧
    (∀ i, '/' ∉ i.toList → dir.Inside (place i) ∧
      ∀ j, '/' ∉ j.toList → (place i = place j ↔ i = j)) ∧
    ∀ i, ∃ j, j ≠ i ∧ place j = place i := by
  intro dir place
  have hplace (i : String) : place i =
      Path.destination dir (Path.lead i) ++ [dataName (Path.leaf i)] :=
    loader.destination_dataFile working i
  have hshared (i j : String) : place i = place j ↔ Path.leaf i = Path.leaf j ∧
      Path.destination dir (Path.lead i) = Path.destination dir (Path.lead j) := by
    rw [hplace, hplace]
    constructor
    · intro heq
      obtain ⟨hfront, hname⟩ := List.append_inj' heq rfl
      exact ⟨dataFileName_inj (List.singleton_inj.mp hname), hfront⟩
    · rintro ⟨hleaf, hfront⟩
      rw [hleaf, hfront]
  have hinside (i : String) : dir.Inside (place i) ↔ dir <+: Path.destination dir (Path.lead i) := by
    rw [hplace, Place.inside_concat_iff]
  refine ⟨?_, hshared, hinside, fun i hi => ⟨?_, fun j hj => ?_⟩, loader.exists_same_dataFile working⟩
  · rintro files rfl i p hresolve
    exact FileSystem.eq_destination_of_resolve hresolve
  · rw [hinside, Path.lead_of_not_mem hi]
    exact List.prefix_rfl
  · rw [hshared, Path.lead_of_not_mem hi, Path.lead_of_not_mem hj, Path.leaf_of_not_mem hi,
      Path.leaf_of_not_mem hj]
    exact and_iff_left rfl

/-- Two scripts without slashes in their identifiers, with the directories still to be made. -/
theorem dataFiles_shared_iff_plain :
    let loader : Loader := .new "scripts.yml" "scripts"
    let place (identifier : String) := Path.destination [] (loader.dataFile identifier)
    '/' ∉ ("a.b" : String).toList ∧ '/' ∉ ("..a" : String).toList ∧
      place "a.b" ≠ place "..a" ∧ Place.Inside ["scripts", "data"] (place "a.b") := by
  intro loader place
  have hfirst : '/' ∉ ("a.b" : String).toList := by decide
  have hsecond : '/' ∉ ("..a" : String).toList := by decide
  obtain ⟨-, -, -, hown, -⟩ := dataFiles_shared_iff loader []
  obtain ⟨hinside, hshared⟩ := hown "a.b" hfirst
  have hdir : Path.destination [] loader.dataDir = ["scripts", "data"] := by decide +kernel
  rw [hdir] at hinside
  exact ⟨hfirst, hsecond, fun hsame => absurd ((hshared "..a" hsecond).mp hsame) (by decide), hinside⟩

/-- Scripts under `a` and `./a` share a data file: what is saved for the one is found by the other. The data
file of a script under `../a` lies outside of the data directory. -/
theorem dataFiles_shared_through_dot :
    let loader : Loader := .new "scripts.yml" "scripts"
    let place (identifier : String) := Path.destination [] (loader.dataFile identifier)
    let store : Store := ⟨"a", some (loader.dataFile "a"), counted⟩
    let other : Store := ⟨"./a", some (loader.dataFile "./a"), Dict.empty⟩
    let world := (World.run ⟨⟨[], []⟩, .zero, fun _ _ text => .ok text⟩ store.save).2
    place "./a" = place "a" ∧
      (world.run other.reload).1 = (.ok (), { other with values := counted }) ∧
      ¬ (Path.destination [] loader.dataDir).Inside (place "../a") := by
  intro loader place store other world
  have hfile : world.texts (loader.dataFile "./a") = .ok countText := by decide +kernel
  have hholds : Store.FileHolds (world.texts (loader.dataFile "./a")) counted := by
    rw [hfile]
    exact .mapping (by decide) readData_countText
  refine ⟨by decide +kernel, ?_, by decide +kernel⟩
  have hpath : other.path = some (loader.dataFile "./a") := rfl
  rw [World.run, run_reload_store World.steadyFiles hpath, Store.valuesOfReply_eq_ok_iff.mpr hholds]

end Loader

end PlaceholderScripts
