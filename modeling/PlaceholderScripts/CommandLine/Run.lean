import PlaceholderScripts.CommandLine.Invocation
import PlaceholderScripts.Console

/-!
# The command line

Loads the configured scripts, does what the command line asks for, and saves the data of all scripts.
The exit code is two for a command line that cannot be understood, and one if the scripts cannot be
loaded, if a script is not there, or if the console came upon a line that is no text.
-/

namespace PlaceholderScripts.CommandLine

def versionLine : String := "scriptex 0.1.0"

def codeIdentifier : String := "cli"

structure Outcome where
  exit : Nat
  output : List String := []
  deriving DecidableEq, Repr

/-- What the lines of an outcome look like when they are printed. -/
def Outcome.text (outcome : Outcome) : String :=
  String.join (outcome.output.map fun line => line ++ "\n")

/-- What a command line that is not carried out ends with. -/
def Stop.outcome : Stop → Outcome
  | .usage => ⟨2, []⟩
  | .help => ⟨0, []⟩
  | .version => ⟨0, [versionLine]⟩

def listLine (d : Definition) : String := d.identifier ++ " (" ++ d.policy.text ++ ")"

/-- The server as a requester sees it: only a connected player is there. -/
def serverOf (identity : Identity) : Server := { players := identity.onlinePlayer?.toList }

/-- The expansion for settings. -/
def expansionOf (settings : Settings) (identity : Identity) (factory : Factory) : Expansion :=
  { evaluator := .new factory (serverOf identity)
    loader := .new settings.configPath settings.scriptsDir }

def Invocation.service (invocation : Invocation) : SubstitutionService :=
  SubstitutionTable.service (Dict.ofList invocation.values)

/-- Evaluates a configured script. -/
def evalScript (x : Expansion) (identity : Identity) (identifier : String) (args : List String) :
    Program (Outcome × Expansion) := do
  match x.registry.handles.get? identifier, x.registry.get? identifier with
  | some handle, some d =>
    let (result, x) ← x.evaluateHandle 0 handle d identity args
    return (⟨0, [Evaluator.answer result]⟩, x)
  | _, _ => return (⟨1, []⟩, x)

/-- Saves the data of all scripts, whatever comes of it. -/
def saving (outcome : Outcome) (x : Expansion) : Program Outcome := do
  let _ ← x.registry.saveAll
  return outcome

/-- Does what is asked for, with the scripts loaded. -/
def act (x : Expansion) (identity : Identity) (input : List (Option String)) : Action → Program Outcome
  | .eval identifier args => do
    let (outcome, x) ← evalScript x identity identifier args
    if outcome.exit = 0 then saving outcome x else return outcome
  | .list => saving ⟨0, x.registry.registered.map listLine⟩ x
  | .parse code => do
    let (text, x) ← x.evaluateCode 0 codeIdentifier code identity
    saving ⟨0, [text]⟩ x
  | .console => do
    let (lines, ok, console) ← Console.run input (Console.start x identity)
    saving ⟨if ok then 0 else 1, lines⟩ console.expansion

/-- Loads the scripts and does what is asked for. -/
def Invocation.run (invocation : Invocation) (environment : Settings) (factory : Factory)
    (fresh : PlayerId) (input : List (Option String)) : Program Outcome := do
  let identity := invocation.requester.identity fresh
  let (result, x) ← (expansionOf (invocation.settings environment) identity factory).load
  match result with
  | .error _ => return ⟨1, []⟩
  | .ok _ => act x identity input invocation.action

end PlaceholderScripts.CommandLine
