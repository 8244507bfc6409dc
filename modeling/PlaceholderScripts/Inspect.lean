import PlaceholderScripts.Expansion.CommandTable
import PlaceholderScripts.Expansion.Router
import PlaceholderScripts.Text.Quoted

/-!
# Inspection texts

The texts by which the parts of the library show their state to those who look for faults: the name of
a part and its fields, with all texts quoted.
-/

namespace PlaceholderScripts.Inspect

open Text (quoted)

def list (items : List String) : String := "[" ++ ", ".intercalate items ++ "]"

def names (items : List String) : String := list (items.map quoted)

/-- Fields in braces. -/
def fields (items : List (String × String)) : String :=
  if items.isEmpty then "\x7b\x7d"
  else "\x7b " ++ ", ".intercalate (items.map fun f => f.1 ++ ": " ++ f.2) ++ " \x7d"

def record (name : String) (items : List (String × String)) : String := name ++ " " ++ fields items

def entries (items : List (String × String)) : String :=
  "\x7b" ++ ", ".intercalate (items.map fun f => f.1 ++ ": " ++ f.2) ++ "\x7d"

def factory (f : Factory) : String :=
  record "InterpreterFactory" [
    ("library", names f.library.moduleNames),
    ("extensions", toString f.extensions),
    ("no_native_escape", toString f.isRestricted)]

/-- A pool before its first use. -/
def pool (p : Pool) : String :=
  record "InterpreterPool" [
    ("factory", factory p.factory),
    ("slots", entries (p.slots.map fun s => (toString s.1, toString s.2.serial)))]

def expansionInfo (e : ExpansionInfo) : String :=
  record "ExpansionInfo" [
    ("identifier", quoted e.identifier), ("author", quoted e.author), ("version", quoted e.version)]

def evaluator (e : Evaluator) : String :=
  record "Evaluator" [
    ("pool", pool e.pool), ("server", quoted e.server.name), ("expansion", expansionInfo e.expansion)]

def router : String :=
  record "ExpansionCommandRouter" [
    ("name", quoted Expansion.commandName), ("aliases", names Expansion.commandAliases)]

def commandTable {Handler : Type} (table : CommandTable Handler) : String :=
  record "InMemoryCommandRegistry" [("commands", names table.names)]

def registrar (r : Registrar) : String :=
  record "CommandRegistrar" [
    ("router", router), ("owned", entries (r.owned.keys.map fun name => (quoted name, "()")))]

def server (s : Server) : String := "ServerHandle(" ++ quoted s.name ++ ")"

end PlaceholderScripts.Inspect
