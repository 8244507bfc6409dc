import PlaceholderScripts.Clock
import PlaceholderScripts.Dialogue
import PlaceholderScripts.Files.FileSystem
import PlaceholderScripts.Substitution

/-!
# What the library asks its surroundings

Everything that is not computed is asked for: the time, the contents of files, and the substitution
of placeholders. A program is a dialogue in these requests. A world answers them from a modelled file
system, a clock and a substitution service.
-/

namespace PlaceholderScripts

inductive Request where
  | now
  | readText (path : Path)
  | writeText (path : Path) (text : String)
  /-- Makes the directory that holds the path's last name. -/
  | createParents (path : Path)
  | substitute (form : TokenForm) (identity : Identity) (text : String)
  deriving DecidableEq, Repr

/-- What comes back. -/
def Request.Reply : Request → Type
  | .now => Instant
  | .readText _ => Except FileError String
  | .writeText _ _ => Except FileError Unit
  | .createParents _ => Except FileError Unit
  | .substitute _ _ _ => Except SubstitutionError String

abbrev Program (α : Type) := Dialogue Request Request.Reply α

namespace Program

def now : Program Instant := .ask Request.now .done

def readText (path : Path) : Program (Except FileError String) := .ask (Request.readText path) .done

def writeText (path : Path) (text : String) : Program (Except FileError Unit) :=
  .ask (Request.writeText path text) .done

def createParents (path : Path) : Program (Except FileError Unit) := .ask (Request.createParents path) .done

def substitute (form : TokenForm) (identity : Identity) (text : String) :
    Program (Except SubstitutionError String) :=
  .ask (Request.substitute form identity text) .done

section Run

variable {σ : Type} (reply : σ → (q : Request) → q.Reply × σ) (s : σ)

@[simp] theorem run_now : Dialogue.run reply now s = reply s .now := rfl

@[simp] theorem run_readText (path : Path) :
    Dialogue.run reply (readText path) s = reply s (.readText path) := rfl

@[simp] theorem run_writeText (path : Path) (text : String) :
    Dialogue.run reply (writeText path text) s = reply s (.writeText path text) := rfl

@[simp] theorem run_createParents (path : Path) :
    Dialogue.run reply (createParents path) s = reply s (.createParents path) := rfl

end Run

end Program

structure World where
  files : FileSystem
  clock : Instant
  service : SubstitutionService

namespace World

/-- Keeps a changed file system, if the operation succeeded. -/
def update (world : World) : Except FileError FileSystem → Except FileError Unit × World
  | .ok files => (.ok (), { world with files })
  | .error e => (.error e, world)

/-- The reply to a request and the world after it. -/
def reply (world : World) : (request : Request) → request.Reply × World
  | .now => (world.clock, world)
  | .readText path => (world.files.readText path, world)
  | .writeText path text => world.update (world.files.writeText path text)
  | .createParents path =>
    match Path.parentNames? path with
    | none => (.ok (), world)
    | some names =>
      let (result, files) := world.files.createDirectories (Path.isAbsolute path) names
      (result, { world with files })
  | .substitute form identity text => (world.service form identity text, world)

def run {α : Type} (world : World) (program : Program α) : α × World :=
  Dialogue.run reply program world

end World

end PlaceholderScripts
