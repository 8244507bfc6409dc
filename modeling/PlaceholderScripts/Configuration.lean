import PlaceholderScripts.Surroundings
import PlaceholderScripts.Yaml.Decode
import PlaceholderScripts.Yaml.Printer

/-!
# The script configuration

The file that says which scripts there are: identifiers with the file of the template and, if results
are to be kept, the text of a cache policy.
-/

namespace PlaceholderScripts

structure ScriptEntry where
  /-- The template, as seen from the directory of the scripts. -/
  file : Path
  /-- The text of the cache policy. -/
  cache : Option String := none
  deriving DecidableEq, Repr

inductive LoadError where
  | io (path : Path) (cause : FileError)
  | malformed (path : Path) (cause : Yaml.ReadError)
  deriving DecidableEq, Repr

def LoadError.message : LoadError → String
  | .io path cause => "Unable to read " ++ path ++ ": " ++ cause.message
  | .malformed path cause => "Malformed script configuration " ++ path ++ ": " ++ cause.message

namespace ScriptEntry

open Yaml

/-- An optional text: a plain null is none, in quotes it is a text. -/
def readOptional (doc : Document) (route : Route) (node : Node) :
    Except ReadError (Option String) :=
  match doc.follow node with
  | .scalar text style tag mark =>
    let node := Node.scalar text style tag mark
    if style ≠ .plain then .ok (some text)
    else if tag = some CoreTag.null then
      if Plain.isNull text then .ok none
      else mismatchAt route node (.wrongValue (foundText text) "null")
    else if tag.isNone && (text.isEmpty || Plain.isNull text) then .ok none
    else .ok (some text)
  | node => some <$> doc.readText "a string" route node

structure Fields where
  file : Option Path := none
  cache : Option (Option String) := none

/-- Reads one field; those of other names are passed over. -/
def readField (doc : Document) (route : Route) (record : Node) (fields : Fields)
    (pair : Node × Node) : Except ReadError Fields := do
  let name ← doc.readText "field identifier" route pair.1
  let inner := Document.stepTo pair.1 :: route
  if name = "file" then
    if fields.file.isSome then mismatchAt route record (.duplicateField "file")
    else return { fields with file := some (← doc.readText "path string" inner pair.2) }
  else if name = "cache" then
    if fields.cache.isSome then mismatchAt route record (.duplicateField "cache")
    else return { fields with cache := some (← readOptional doc inner pair.2) }
  else return fields

/-- Reads an entry. -/
def ofNode (doc : Document) (route : Route) (node : Node) : Except ReadError ScriptEntry := do
  let (record, pairs) ← doc.readMapping "struct ScriptEntry" route node
  let fields ← pairs.foldlM (readField doc route record) {}
  match fields.file with
  | some file => return ⟨file, fields.cache.join⟩
  | none => mismatchAt route record (.missingField "file")

/-- An entry as it is written. -/
def toDatum (entry : ScriptEntry) : Datum :=
  .map (("file", .text entry.file) ::
    match entry.cache with
    | some cache => [("cache", .text cache)]
    | none => [])

end ScriptEntry

abbrev Configuration := Dict ScriptEntry

namespace Configuration

def defaultFile : Path := "scripts.yml"

/-- Reads the text of a configuration file; a blank one configures nothing. -/
def parse (path : Path) (text : String) : Except LoadError Configuration :=
  if Text.allBlank text.toList then .ok Dict.empty
  else match Yaml.readMap ScriptEntry.ofNode text with
    | .ok configuration => .ok configuration
    | .error e => .error (.malformed path e)

/-- The configuration from what reading its file gave. -/
def ofReply (path : Path) : Except FileError String → Except LoadError Configuration
  | .ok text => parse path text
  | .error .notFound => .ok Dict.empty
  | .error e => .error (.io path e)

/-- Loads a configuration; a file that is absent configures nothing. -/
def load (path : Path) : Program (Except LoadError Configuration) := do
  return ofReply path (← Program.readText path)

def text (configuration : Configuration) : String :=
  Yaml.writeMap (configuration.map ScriptEntry.toDatum).entries

/-- Writes a configuration. -/
def save (configuration : Configuration) (path : Path) : Program (Except LoadError Unit) := do
  match ← Program.createParents path with
  | .error e => return .error (.io path e)
  | .ok () =>
    match ← Program.writeText path (text configuration) with
    | .error e => return .error (.io path e)
    | .ok () => return .ok ()

end Configuration

end PlaceholderScripts
