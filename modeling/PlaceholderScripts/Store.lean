import PlaceholderScripts.Surroundings
import PlaceholderScripts.Yaml.Decode
import PlaceholderScripts.Yaml.Printer

/-!
# Data stores

The key-value store of one script. A store may belong to a file: it is loaded from it, where a file
that is absent or blank stands for no values, saved to it as a whole, and reloaded from it. A reload
that fails leaves the values alone. A store without a file is never written.
-/

namespace PlaceholderScripts

inductive DataError where
  | io (path : Path) (cause : FileError)
  | malformed (path : Path) (cause : Yaml.ReadError)
  deriving DecidableEq, Repr

def DataError.message : DataError → String
  | .io path cause => "Unable to access script data file " ++ path ++ ": " ++ cause.message
  | .malformed path cause => "Malformed script data file " ++ path ++ ": " ++ cause.message

structure Store where
  identifier : String
  path : Option Path
  values : Dict Datum

namespace Store

def inMemory (identifier : String) : Store := ⟨identifier, none, Dict.empty⟩

instance : Inhabited Store := ⟨inMemory ""⟩

/-- The values of a file with the given text. -/
def valuesOfText (path : Path) (text : String) : Except DataError (Dict Datum) :=
  if Text.allBlank text.toList then .ok Dict.empty
  else match Yaml.readData text with
    | .ok values => .ok values
    | .error e => .error (.malformed path e)

/-- The values of a file from what reading it gave. -/
def valuesOfReply (path : Path) : Except FileError String → Except DataError (Dict Datum)
  | .ok text => valuesOfText path text
  | .error .notFound => .ok Dict.empty
  | .error e => .error (.io path e)

def read (path : Path) : Program (Except DataError (Dict Datum)) := do
  return valuesOfReply path (← Program.readText path)

/-- Opens the store of a file. -/
def load (identifier : String) (path : Path) : Program (Except DataError Store) := do
  match ← read path with
  | .ok values => return .ok ⟨identifier, some path, values⟩
  | .error e => return .error e

def text (store : Store) : String := Yaml.writeMap store.values.entries

/-- Writes the values to the store's file. -/
def save (store : Store) : Program (Except DataError Unit) := do
  match store.path with
  | none => return .ok ()
  | some path =>
    match ← Program.createParents path with
    | .error e => return .error (.io path e)
    | .ok () =>
      match ← Program.writeText path store.text with
      | .error e => return .error (.io path e)
      | .ok () => return .ok ()

def get? (store : Store) (key : String) : Option Datum := store.values.get? key

def set (store : Store) (key : String) (value : Datum) : Option Datum × Store :=
  (store.get? key, { store with values := store.values.insert key value })

def remove (store : Store) (key : String) : Option Datum × Store :=
  (store.get? key, { store with values := store.values.erase key })

def clear (store : Store) : Store := { store with values := Dict.empty }

/-- Drops what is in the store and puts the given values into it, one after the other. -/
def refill (store : Store) (values : Dict Datum) : Store :=
  values.entries.foldl (fun store e => (store.set e.1 e.2).2) store.clear

/-- Replaces the values by those of the store's file, once that is read. -/
def reload (store : Store) : Program (Except DataError Unit × Store) := do
  match store.path with
  | none => return (.ok (), store)
  | some path =>
    match ← read path with
    | .ok values => return (.ok (), store.refill values)
    | .error e => return (.error e, store)

theorem foldl_set (entries : List (String × Datum)) (store : Store) :
    entries.foldl (fun store e => (store.set e.1 e.2).2) store =
      { store with values := entries.foldl (fun values e => values.insert e.1 e.2) store.values } := by
  induction entries generalizing store with
  | nil => rfl
  | cons e rest ih => exact ih _

/-- Nothing of the old values is left, and of the new ones nothing is lost. -/
@[simp] theorem refill_eq (store : Store) (values : Dict Datum) :
    store.refill values = { store with values } := by
  have hvalues : values.entries.foldl (fun values e => values.insert e.1 e.2) Dict.empty = values :=
    Dict.foldl_insert_entries values
  rw [refill, foldl_set]
  exact congrArg (fun values => { store with values }) hvalues

end Store

end PlaceholderScripts
