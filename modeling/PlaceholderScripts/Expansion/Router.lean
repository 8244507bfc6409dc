import PlaceholderScripts.Evaluation
import PlaceholderScripts.Expansion.Command
import PlaceholderScripts.Loader

/-!
# The expansion

The component that owns the scripts: it evaluates them, loads them, and carries out commands about them.
Its commands go by a name and an alias.
-/

namespace PlaceholderScripts

inductive CommandOutput where
  | lines (lines : List String)
  | none
  deriving DecidableEq, Repr

namespace CommandOutput

def line (text : String) : CommandOutput := .lines [text]

def toLines : CommandOutput → List String
  | .lines list => list
  | .none => []

end CommandOutput

structure Expansion where
  evaluator : Evaluator
  loader : Loader
  registry : Registry := {}

namespace Expansion

def commandName : String := "scriptex"

def commandAliases : List String := ["sx"]

def usage : String := "Usage: " ++ commandName ++ " <list|parse|reload|debug|help>"

def parseIdentifier : String := "parse-command"

def helpLines : List String := usage :: ExpansionCommand.kinds.filterMap ExpansionCommand.help?

def listLine (registry : Registry) : String :=
  toString registry.size ++ " script(s) loaded: " ++ ", ".intercalate registry.identifiers

/-- Evaluates a registered script, and keeps what became of it. -/
def evaluateHandle (x : Expansion) (worker : Worker) (handle : Handle) (d : Definition)
    (identity : Identity) (args : List String) :
    Program (Except EvaluationError String × Expansion) := do
  let (result, d, evaluator) ← x.evaluator.tryEvaluate worker d identity args
  return (result, { x with evaluator, registry := x.registry.update handle d })

/-- Evaluates code that is not registered. -/
def evaluateCode (x : Expansion) (worker : Worker) (identifier code : String) (identity : Identity) :
    Program (String × Expansion) := do
  let (text, _, evaluator) ←
    x.evaluator.evaluate worker (Definition.ephemeral identifier code) identity []
  return (text, { x with evaluator })

/-- Loads the configured scripts. -/
def load (x : Expansion) : Program (Except LoadError Nat × Expansion) := do
  let (result, registry) ← x.loader.load x.registry
  return (result, { x with registry })

/-- Saves the data of all scripts and loads them from scratch. -/
def reload (x : Expansion) : Program (Except LoadError Nat × Expansion) := do
  let (result, registry) ← x.loader.reload x.registry
  return (result, { x with registry })

def reloadLine : Except LoadError Nat → String
  | .ok n => "Reloaded " ++ toString n ++ " script(s)"
  | .error e => "Reload failed: " ++ e.message

/-- Evaluates code on behalf of the sender or of nobody. -/
def parse (x : Expansion) (worker : Worker) (sender : Identity) (target : ParseTarget)
    (code : String) : Program (CommandOutput × Expansion) := do
  match target with
  | .me =>
    if sender.isAnonymous then return (.line "Only players can parse as 'me'", x)
    else
      let (text, x) ← x.evaluateCode worker parseIdentifier code sender
      return (.line text, x)
  | .anonymous =>
    let (text, x) ← x.evaluateCode worker parseIdentifier code .anonymous
    return (.line text, x)

def dataLine (verb identifier : String) : Except DataError Unit → CommandOutput
  | .ok () => .line (verb ++ " data of script '" ++ identifier ++ "'")
  | .error e => .line e.message

/-- Writes or reads the data of a registered script. -/
def debugData (x : Expansion) (action : DebugAction) (identifier : String) :
    Program (CommandOutput × Expansion) := do
  match x.registry.handles.get? identifier, x.registry.get? identifier with
  | some handle, some d =>
    match action with
    | .saveData => return (dataLine "Saved" identifier (← d.data.save), x)
    | .loadData =>
      let (result, data) ← d.data.reload
      return (dataLine "Loaded" identifier result,
        { x with registry := x.registry.update handle { d with data } })
  | _, _ => return (.line ("Invalid script identifier '" ++ identifier ++ "'"), x)

/-- Carries out a command. -/
def execute (x : Expansion) (worker : Worker) (sender : Identity) (args : List String) :
    Program (CommandOutput × Expansion) := do
  match ExpansionCommand.ofArgs args with
  | .list => return (.line (listLine x.registry), x)
  | .parse target code => x.parse worker sender target code
  | .reload =>
    let (result, x) ← x.reload
    return (.line (reloadLine result), x)
  | .debug action identifier => x.debugData action identifier
  | .help => return (.lines helpLines, x)
  | .unknown _ => return (.line usage, x)

end Expansion

end PlaceholderScripts
