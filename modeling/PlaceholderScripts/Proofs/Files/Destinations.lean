import PlaceholderScripts.Proofs.Files.Writing

/-!
# Where paths lead

A path says by its text alone which place it leads to from the working directory: empty parts and `.` stay,
and `..` goes back. A file system only decides whether there is a way to that place. Joined paths lead where
the second one leads from the end of the first.
-/

namespace PlaceholderScripts

namespace Path

def step (place : Place) (name : String) : Place :=
  if name = ".." then place.dropLast else place ++ [name]

def follow (place : Place) (names : List String) : Place := names.foldl step place

def start (working : Place) (path : Path) : Place := if isAbsolute path then [] else working

/-- The place that a path leads to, whatever stands there. -/
def destination (working : Place) (path : Path) : Place := follow (start working path) (names path)

theorem follow_append (place : Place) (names names' : List String) :
    follow place (names ++ names') = follow (follow place names) names' := List.foldl_append

theorem IsName.step_eq {name : String} (h : IsName name) (place : Place) :
    step place name = place ++ [name] := if_neg h.notAbove

def isNaming (part : String) : Bool := part ≠ "" && part ≠ "."

theorem names_eq (path : Path) :
    names path = ((path.toList.splitOn '/').map String.ofList).filter isNaming := by
  change (parts path).filter isNaming = _
  rw [parts, Text.splitAt_eq_splitOn]

theorem IsName.names_self {name : String} (h : IsName name) : names name = [name] := by
  have hsplit : name.toList.splitOn '/' = [name.toList] := List.splitOn_eq_singleton h.single
  rw [names_eq, hsplit]
  simp [isNaming, h.notEmpty, h.notHere]

theorem names_of_toList {path : Path} {before : List Char} {rest : Path}
    (h : path.toList = before ++ '/' :: rest.toList) :
    names path = names (String.ofList before) ++ names rest := by
  have hsplit : (before ++ '/' :: rest.toList).splitOn '/' =
      before.splitOn '/' ++ rest.toList.splitOn '/' := List.splitOn_append_cons_self before rest.toList
  rw [names_eq, h, hsplit, List.map_append, List.filter_append, names_eq, names_eq, String.toList_ofList]

theorem isAbsolute_eq_of_append {path base : Path} {rest : List Char} (hbase : base ≠ "")
    (h : path.toList = base.toList ++ rest) : isAbsolute path = isAbsolute base := by
  rw [isAbsolute, isAbsolute, h, List.head?_append]
  cases hhead : base.toList.head? with
  | none => exact absurd (String.toList_eq_nil_iff.mp (List.head?_eq_none_iff.mp hhead)) hbase
  | some c => rfl

/-- Between the parts of a joined path there is one slash, be it the last character of the first part. -/
theorem exists_toList_join {base rest : Path} (hbase : base ≠ "") (hrest : isAbsolute rest = false) :
    ∃ before, names base = names (String.ofList before) ∧
      (join base rest).toList = before ++ '/' :: rest.toList ∧
      isAbsolute (join base rest) = isAbsolute base := by
  have hisEmpty : base.isEmpty = false := by
    rw [← Bool.not_eq_true, String.isEmpty_iff]
    exact hbase
  rw [join, hrest, hisEmpty, Bool.or_self, if_neg Bool.false_ne_true]
  split
  · next hlast =>
    have hends : base.toList = base.toList.dropLast ++ '/' :: ("" : Path).toList :=
      (List.dropLast_append_getLast? _ hlast).symm
    have htext : (base ++ rest).toList = base.toList.dropLast ++ '/' :: rest.toList := by
      rw [String.toList_append]
      nth_rewrite 1 [hends]
      rw [List.append_assoc]
      rfl
    refine ⟨_, ?_, htext, isAbsolute_eq_of_append hbase String.toList_append⟩
    rw [names_of_toList hends]
    exact List.append_nil _
  · have htext : (base ++ "/" ++ rest).toList = base.toList ++ '/' :: rest.toList := by simp
    exact ⟨base.toList, by rw [String.ofList_toList], htext, isAbsolute_eq_of_append hbase htext⟩

/-- A joined path leads where its second part leads from the end of the first. -/
theorem destination_join (working : Place) (base rest : Path) :
    destination working (join base rest) = destination (destination working base) rest := by
  by_cases habsolute : isAbsolute rest = true
  · rw [join, habsolute, Bool.true_or, if_pos rfl, destination, destination, start, start,
      if_pos habsolute, if_pos habsolute]
  · rw [Bool.not_eq_true] at habsolute
    by_cases hempty : base = ""
    · subst hempty
      rw [join, if_pos (by simp)]
      rfl
    · obtain ⟨before, hnames, htext, hsame⟩ := exists_toList_join hempty habsolute
      have hstart : start (destination working base) rest = destination working base := by
        rw [start, habsolute]
        exact if_neg Bool.false_ne_true
      rw [destination, destination, hstart, start, hsame, ← start, names_of_toList htext, ← hnames,
        follow_append, ← destination]

theorem IsName.destination_eq {name : String} (h : IsName name) (working : Place) :
    destination working name = working ++ [name] := by
  rw [Path.destination, start, h.isAbsolute, if_neg Bool.false_ne_true, h.names_self, follow,
    List.foldl_cons, List.foldl_nil, h.step_eq]

end Path

namespace FileSystem

theorem walk_eq_follow {fs : FileSystem} {place target : Place} {ps : List String}
    (h : fs.walk place ps = .ok target) :
    target = Path.follow place (ps.filter Path.isNaming) := by
  induction ps generalizing place with
  | nil => exact (Except.ok.inj h).symm
  | cons part rest ih =>
    rw [walk] at h
    cases hnode : fs.node? place with
    | none => simp [hnode] at h
    | some node =>
      cases node with
      | file content => simp [hnode] at h
      | directory =>
        rw [hnode] at h
        simp only at h
        split at h
        · next hhere =>
          have hskip : ¬ Path.isNaming part = true := by
            simpa [Path.isNaming, or_iff_not_imp_left] using hhere
          rw [List.filter_cons_of_neg hskip]
          exact ih h
        · next hhere =>
          have hname : Path.isNaming part = true := by simpa [Path.isNaming] using hhere
          rw [List.filter_cons_of_pos hname, Path.follow, List.foldl_cons, ← Path.follow]
          split at h
          · next habove =>
            rw [Path.step, if_pos habove]
            exact ih h
          · next habove =>
            rw [Path.step, if_neg habove]
            split at h
            · cases h
            · exact ih h

theorem eq_destination_of_resolve {fs : FileSystem} {path : Path} {place : Place}
    (h : fs.resolve path = .ok place) : place = Path.destination fs.working path := by
  unfold resolve at h
  split at h
  · exact nomatch h
  · split at h
    · exact nomatch h
    · exact walk_eq_follow h

end FileSystem

end PlaceholderScripts
