import PlaceholderScripts.Files.Path

/-!
# Files and directories

A file system is a finite set of places, each a file or a directory; the root is always a directory.
A place is the list of names that leads to it from the root. A path is walked from the working
directory or, when it is absolute, from the root: every part but the last must be reached through
a directory, `.` stays and `..` goes back.
-/

namespace PlaceholderScripts

inductive FileError where
  | notFound
  | exists
  | notDirectory
  | isDirectory
  | nameTooLong
  | nulInName
  | notText
  /-- Any other failure, in the words of the system. -/
  | other (words : String)
  deriving DecidableEq, Repr

def FileError.message : FileError → String
  | .notFound => "No such file or directory (os error 2)"
  | .exists => "File exists (os error 17)"
  | .notDirectory => "Not a directory (os error 20)"
  | .isDirectory => "Is a directory (os error 21)"
  | .nameTooLong => "File name too long (os error 36)"
  | .nulInName => "file name contained an unexpected NUL byte"
  | .notText => "stream did not contain valid UTF-8"
  | .other words => words

/-- The names that lead to a file or directory from the root. -/
abbrev Place := List String

inductive Content where
  | text (value : String)
  | bytes (value : List UInt8)
  deriving DecidableEq, Repr

inductive FileNode where
  | file (content : Content)
  | directory
  deriving DecidableEq, Repr

structure FileSystem where
  nodes : List (Place × FileNode)
  working : Place
  deriving Repr

namespace FileSystem

def node? (fs : FileSystem) (place : Place) : Option FileNode :=
  if place = [] then some .directory else fs.nodes.lookup place

/-- The same places with one of them replaced or added. -/
def setIn (place : Place) (node : FileNode) : List (Place × FileNode) → List (Place × FileNode)
  | [] => [(place, node)]
  | (p, n) :: rest => if place = p then (place, node) :: rest else (p, n) :: setIn place node rest

def set (fs : FileSystem) (place : Place) (node : FileNode) : FileSystem :=
  { fs with nodes := setIn place node fs.nodes }

def isLong (name : String) : Bool := name.utf8ByteSize > 255

/-- The place that the parts of a path lead to. Nothing need stand there, but all parts before it
must be directories. -/
def walk (fs : FileSystem) (place : Place) : List String → Except FileError Place
  | [] => .ok place
  | part :: rest =>
    match fs.node? place with
    | none => .error .notFound
    | some (.file _) => .error .notDirectory
    | some .directory =>
      if part = "" || part = "." then fs.walk place rest
      else if part = ".." then fs.walk place.dropLast rest
      else if isLong part then .error .nameTooLong
      else fs.walk (place ++ [part]) rest

/-- The place of a path. -/
def resolve (fs : FileSystem) (path : Path) : Except FileError Place :=
  if path.isEmpty then .error .notFound
  else if path.toList.contains '\x00' then .error .nulInName
  else fs.walk (if Path.isAbsolute path then [] else fs.working) (Path.parts path)

/-- The text of a file. -/
def readText (fs : FileSystem) (path : Path) : Except FileError String :=
  match fs.resolve path with
  | .error e => .error e
  | .ok place =>
    match fs.node? place with
    | none => .error .notFound
    | some .directory => .error .isDirectory
    | some (.file (.text value)) => .ok value
    | some (.file (.bytes _)) => .error .notText

/-- Writes a whole file, which is made if its directory is there. -/
def writeText (fs : FileSystem) (path : Path) (text : String) : Except FileError FileSystem :=
  if path.toList.getLast? = some '/' then .error .isDirectory else
  match fs.resolve path with
  | .error e => .error e
  | .ok place =>
    match fs.node? place with
    | some .directory => .error .isDirectory
    | _ => .ok (fs.set place (.file (.text text)))

/-- Makes the directories of a walk that are not there yet. Those in front of one that cannot be made
are there afterwards. -/
def makeDirectories (fs : FileSystem) (place : Place) :
    List String → Except FileError Unit × FileSystem
  | [] => (.ok (), fs)
  | name :: rest =>
    let next := if name = ".." then place.dropLast else place ++ [name]
    if isLong name then (.error .nameTooLong, fs) else
    match fs.node? next with
    | some .directory => fs.makeDirectories next rest
    | some (.file _) => (.error (if rest.isEmpty then .exists else .notDirectory), fs)
    | none => (fs.set next .directory).makeDirectories next rest

/-- Makes a directory and all those above it. -/
def createDirectories (fs : FileSystem) (absolute : Bool) (names : List String) :
    Except FileError Unit × FileSystem :=
  if names.any (·.toList.contains '\x00') then (.error .nulInName, fs)
  else fs.makeDirectories (if absolute then [] else fs.working) names

def remove (fs : FileSystem) (place : Place) : FileSystem :=
  { fs with nodes := fs.nodes.filter fun n => !place.isPrefixOf n.1 }

end FileSystem

end PlaceholderScripts
