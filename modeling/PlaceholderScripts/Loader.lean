import PlaceholderScripts.Configuration
import PlaceholderScripts.Registry

/-!
# Loading scripts

Fills a registry from the script configuration. Scripts are loaded each on its own: one whose
template or data cannot be read is left out and the others are not affected, and one with a faulty
cache policy is loaded uncached. A configuration that cannot be read loads nothing.
-/

namespace PlaceholderScripts

structure Loader where
  configPath : Path
  scriptsDir : Path
  dataDir : Path

namespace Loader

def dataDirName : Path := "data"

/-- A loader for the scripts in a directory, with their data in a directory inside it. -/
def new (configPath scriptsDir : Path) : Loader :=
  ⟨configPath, scriptsDir, Path.join scriptsDir dataDirName⟩

def dataFile (loader : Loader) (identifier : String) : Path :=
  Path.join loader.dataDir (identifier ++ "_data.yml")

/-- A script as it was read, with the cache that its entry asks for. -/
def define (now : Instant) (identifier : String) (entry : ScriptEntry) (template : String)
    (data : Store) : Definition :=
  let d : Definition := { identifier, template, data }
  match entry.cache with
  | some text => (d.applyCachePolicy now text).2
  | none => d

/-- Reads a configured script, if its template and data can be read. -/
def loadDefinition (loader : Loader) (identifier : String) (entry : ScriptEntry) :
    Program (Option Definition) := do
  match ← Program.readText (Path.join loader.scriptsDir entry.file) with
  | .error _ => return none
  | .ok template =>
    match ← Store.load identifier (loader.dataFile identifier) with
    | .error _ => return none
    | .ok data => return some (define (← Program.now) identifier entry template data)

/-- Registers the configured scripts that can be read, and counts them. -/
def loadEntries (loader : Loader) : List (String × ScriptEntry) → Nat → Registry →
    Program (Nat × Registry)
  | [], count, r => return (count, r)
  | (identifier, entry) :: rest, count, r => do
    match ← loader.loadDefinition identifier entry with
    | some d => loader.loadEntries rest (count + 1) (r.register d).2
    | none => loader.loadEntries rest count r

/-- Loads the configured scripts into the registry, and counts them. -/
def load (loader : Loader) (r : Registry) : Program (Except LoadError Nat × Registry) := do
  match ← Configuration.load loader.configPath with
  | .error e => return (.error e, r)
  | .ok configuration =>
    let (count, r) ← loader.loadEntries configuration.entries 0 r
    return (.ok count, r)

/-- Saves the data of every script, drops all scripts, and loads from scratch. -/
def reload (loader : Loader) (r : Registry) : Program (Except LoadError Nat × Registry) := do
  let _ ← r.saveAll
  loader.load r.clear

end Loader

end PlaceholderScripts
