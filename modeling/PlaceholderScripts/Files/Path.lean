import PlaceholderScripts.Text.Blank

/-!
# Paths

A path is text whose parts stand between slashes; it is absolute when it begins with one. Joining
keeps the spelling of both sides, so that messages show paths as they were put together.
-/

namespace PlaceholderScripts

abbrev Path := String

namespace Path

def isAbsolute (path : Path) : Bool := path.toList.head? == some '/'

/-- `rest` as seen from `base`. An absolute path stands for itself, and joining the empty path
leaves a slash at the end. -/
def join (base rest : Path) : Path :=
  if isAbsolute rest || base.isEmpty then rest
  else if base.toList.getLast? = some '/' then base ++ rest
  else base ++ "/" ++ rest

/-- The texts between slashes. Empty parts and `.` mean the directory reached so far. -/
def parts (path : Path) : List String :=
  (Text.splitAt '/' path.toList).map String.ofList

def names (path : Path) : List String := (parts path).filter fun p => p ≠ "" && p ≠ "."

/-- The names of the directory that holds the path's last name, if it has one. -/
def parentNames? (path : Path) : Option (List String) :=
  if (names path).isEmpty then none else some (names path).dropLast

/-- The text before the last dot, or the whole text when that dot is its first character. -/
def stem (name : String) : String :=
  let cs := name.toList
  match cs.reverse.dropWhile (· ≠ '.') with
  | '.' :: before => if before.isEmpty then name else String.ofList before.reverse
  | _ => name

/-- The stem of the path's last part, if that names a file. -/
def fileStem? (path : Path) : Option String :=
  match (names path).getLast? with
  | some name => if name = ".." then none else some (stem name)
  | none => none

end Path

end PlaceholderScripts
