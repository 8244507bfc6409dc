import PlaceholderScripts.Expansion.CommandTable
import PlaceholderScripts.Expansion.Router

/-!
# The console

Reads commands line by line. The first word of a line is the name of a command and the others are its
arguments. Blank lines do nothing, and the console ends at `quit`, at `exit`, at a line that is no text,
or at the end of the input. No result of a console command is kept in a cache, so that no cleaning can
be seen here.
-/

namespace PlaceholderScripts

/-- The commands by name, all of which go to the expansion, on behalf of one requester. -/
structure Console where
  expansion : Expansion
  identity : Identity
  table : CommandTable Unit
  registrar : Registrar

namespace Console

/-- The names under which the expansion takes commands. -/
def names : List String := Expansion.commandName :: Expansion.commandAliases

/-- A console at its beginning. -/
def start (expansion : Expansion) (identity : Identity) : Console :=
  let (_, registrar, table) := Registrar.register {} names () {}
  { expansion, identity, table, registrar }

inductive Reply where
  | output (lines : List String)
  /-- The end of the console; the flag tells whether the input was text up to here. -/
  | ended (ok : Bool)
  deriving DecidableEq, Repr

def unknownLine (name : String) (known : List String) : String :=
  "Unknown command " ++ name ++ ". Known commands: " ++ ", ".intercalate known

/-- Carries out a line; one that is no text ends the console. -/
def step (console : Console) (line : Option String) : Program (Reply × Console) := do
  match line with
  | none => return (.ended false, console)
  | some line =>
    match (Text.words line.toList).map String.ofList with
    | [] => return (.output [], console)
    | name :: args =>
      if name = "quit" || name = "exit" then return (.ended true, console)
      else match console.table.handler? name with
        | some () =>
          let (output, expansion) ← console.expansion.execute 0 console.identity args
          return (.output output.toLines, { console with expansion })
        | none => return (.output [unknownLine name console.table.names], console)

/-- Carries out lines up to the end. Gives the lines that are printed, and whether the input was text up
to the end. -/
def run : List (Option String) → Console → Program (List String × Bool × Console)
  | [], console => return ([], true, console)
  | line :: rest, console => do
    match ← console.step line with
    | (.ended ok, console) => return ([], ok, console)
    | (.output lines, console) =>
      let (others, ok, console) ← run rest console
      return (lines ++ others, ok, console)

/-- The bytes of an input cut at newlines; the piece behind the last one counts if it is not empty. -/
def cutLines : List UInt8 → List (List UInt8)
  | [] => []
  | b :: rest =>
    if b = 10 then [] :: cutLines rest
    else match cutLines rest with
      | [] => [[b]]
      | line :: lines => (b :: line) :: lines

/-- A line as text, if its bytes are text. -/
def lineOf (bytes : List UInt8) : Option String := String.fromUTF8? ⟨bytes.toArray⟩

def inputLines (input : List UInt8) : List (Option String) := (cutLines input).map lineOf

end Console

end PlaceholderScripts
