import PlaceholderScripts.Digest
import PlaceholderScripts.Library.Embedded
import PlaceholderScripts.Library.Manifest
import PlaceholderScripts.Script.Parser
import PlaceholderScripts.Surroundings

/-!
# Script libraries

A library is a list of modules, which are read from the files that a manifest lists. It is accepted only
as a whole: every file must have the digest that the manifest gives for it, and it must be a script.
Each module is named after its file.
-/

namespace PlaceholderScripts

inductive LibrarySource where
  | embedded
  | directory (path : Path)
  deriving DecidableEq, Repr

inductive LibraryError where
  | missing (file : String)
  | io (path : Path) (cause : FileError)
  | invalidManifest (cause : Library.ManifestError)
  | checksumMismatch (file expected actual : String)
  | notCompiled (file : String) (cause : Script.ParseError)
  deriving DecidableEq, Repr

def LibraryError.message : LibraryError → String
  | .missing file => "Library resource \x60" ++ file ++ "\x60 not found"
  | .io path cause => "Unable to read library resource " ++ path ++ ": " ++ cause.message
  | .invalidManifest e =>
    "Invalid manifest entry on line " ++ toString e.line ++ ": \x60" ++ e.content ++ "\x60"
  | .checksumMismatch file expected actual =>
    "Checksum mismatch for \x60" ++ file ++ "\x60, expected " ++ expected ++ ", got " ++ actual
  | .notCompiled file cause =>
    "Failed to compile library module \x60" ++ file ++ "\x60: " ++ cause.text

/-- A module whose digest has been checked. -/
structure LibraryModule where
  name : String
  checksum : String
  script : Script.ParsedScript

structure Library where
  modules : List LibraryModule

namespace Library

def manifestFile : String := "MANIFEST"

def moduleName (file : String) : String := (Path.fileStem? file).getD file

/-- The text of an embedded file. -/
def embeddedFile (name : String) : Except LibraryError String :=
  if name = manifestFile then .ok Embedded.manifest
  else match Embedded.files.lookup name with
    | some text => .ok text
    | none => .error (.missing name)

/-- The text of a file of a library, from what reading it gave. -/
def textOfReply (path : Path) (name : String) : Except FileError String → Except LibraryError String
  | .ok text => .ok text
  | .error .notFound => .error (.missing name)
  | .error e => .error (.io path e)

/-- Reads a file of a library. -/
def readFile (source : LibrarySource) (name : String) : Program (Except LibraryError String) :=
  match source with
  | .embedded => return embeddedFile name
  | .directory dir => do
    let path := Path.join dir name
    return textOfReply path name (← Program.readText path)

/-- A question on the way to a library: what a file of it holds, or what script a text is. That compiling is
asked for makes it visible in a conversation which texts are compiled. -/
inductive Query where
  | read (name : String)
  | compile (code : String)
  deriving DecidableEq, Repr

def Query.Reply : Query → Type
  | .read _ => Except LibraryError String
  | .compile _ => Except Script.ParseError Script.ParsedScript

abbrev Inspection (α : Type) := Dialogue Query Query.Reply α

namespace Inspection

def read (name : String) : Inspection (Except LibraryError String) := .ask (Query.read name) .done

def compile (code : String) : Inspection (Except Script.ParseError Script.ParsedScript) :=
  .ask (Query.compile code) .done

end Inspection

/-- The module in a file with the given text, which is compiled only if it has the listed digest. -/
def verify (entry : ManifestEntry) (code : String) :
    Inspection (Except LibraryError LibraryModule) := do
  let actual := Digest.ofText code
  if actual ≠ entry.checksum then
    return .error (.checksumMismatch entry.file entry.checksum actual)
  else
    match ← Inspection.compile code with
    | .ok script => return .ok ⟨moduleName entry.file, actual, script⟩
    | .error e => return .error (.notCompiled entry.file e)

/-- Inspects the listed files one after the other, up to the first that is refused. -/
def inspectEntries : List ManifestEntry → Inspection (Except LibraryError (List LibraryModule))
  | [] => return .ok []
  | entry :: rest => do
    match ← Inspection.read entry.file with
    | .error e => return .error e
    | .ok code =>
      match ← verify entry code with
      | .error e => return .error e
      | .ok m =>
        match ← inspectEntries rest with
        | .error e => return .error e
        | .ok ms => return .ok (m :: ms)

/-- Inspects all files of a library. -/
def inspect : Inspection (Except LibraryError Library) := do
  match ← Inspection.read manifestFile with
  | .error e => return .error e
  | .ok text =>
    match Manifest.parse text with
    | .error e => return .error (.invalidManifest e)
    | .ok entries =>
      match ← inspectEntries entries with
      | .error e => return .error e
      | .ok modules => return .ok ⟨modules⟩

/-- Answers a question about the library in the source. -/
def answer (source : LibrarySource) : (q : Query) → Program q.Reply
  | .read name => readFile source name
  | .compile code => return Script.parse code

def load (source : LibrarySource) : Program (Except LibraryError Library) :=
  inspect.runM (answer source)

def moduleNames (library : Library) : List String := library.modules.map LibraryModule.name

/-- Gives the library that is injected already. Only where there is none, one is read from the source
and stays injected, if it is accepted. -/
def inject (injected : Option Library) (source : LibrarySource) :
    Program (Except LibraryError Library × Option Library) := do
  match injected with
  | some library => return (.ok library, injected)
  | none =>
    match ← load source with
    | .ok library => return (.ok library, some library)
    | .error e => return (.error e, none)

end Library

end PlaceholderScripts
