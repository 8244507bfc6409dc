import PlaceholderScripts.CommandLine.Arguments
import PlaceholderScripts.Identity
import PlaceholderScripts.Settings

/-!
# Invocations

What a command line asks for: to evaluate a configured script, to list the scripts, to evaluate code, or
to read commands. Some options may stand before the command or behind it, and where they stand on both
sides, those behind it count.
-/

namespace PlaceholderScripts.CommandLine

structure RequesterOptions where
  player : Option String := none
  id : Option PlayerId := none
  isOffline : Bool := false
  deriving DecidableEq, Repr

/-- The requester. A player without an id gets a fresh one. -/
def RequesterOptions.identity (r : RequesterOptions) (fresh : PlayerId) : Identity :=
  match r.player with
  | none => .anonymous
  | some name =>
    let id := r.id.getD fresh
    if r.isOffline then .offline { id, name := some name } else .online { id, name }

inductive Action where
  | eval (identifier : String) (args : List String)
  | list
  | parse (code : String)
  | console
  deriving DecidableEq, Repr

structure Invocation where
  dir : Option Path := none
  config : Option Path := none
  logFormat : Option LogFormat := none
  /-- Values by key for the substitution of placeholders, of which the last one of a key counts. -/
  values : List (String × String) := []
  requester : RequesterOptions := {}
  action : Action
  deriving DecidableEq, Repr

/-- A key, which is not empty, and its value behind an equals sign. -/
def keyValue? (text : String) : Option (String × String) :=
  match splitValue text.toList with
  | ([], _) => none
  | (key, some value) => some (String.ofList key, String.ofList value)
  | (_, none) => none

def logFormat? (text : String) : Option LogFormat :=
  if text = "text" then some .text else if text = "json" then some .json else none

/-- The options that may stand before and behind the command. -/
def commonOptions : List OptionSpec := [
  { long := "dir", short := some 'd', kind := .value, accepts := fun s => !s.isEmpty },
  { long := "config", short := some 'c', kind := .value, accepts := fun s => !s.isEmpty },
  { long := "log-format", kind := .value, accepts := fun s => (logFormat? s).isSome },
  { long := "set", kind := .values, accepts := fun s => (keyValue? s).isSome },
  { long := "help", short := some 'h', kind := .help }]

def rootOptions : List OptionSpec :=
  commonOptions ++ [{ long := "version", short := some 'V', kind := .version }]

def requesterOptions : List OptionSpec := [
  { long := "player", kind := .value },
  { long := "uuid", kind := .value, accepts := fun s => (PlayerId.parse? s).isSome },
  { long := "offline", kind := .flag }]

def commandNames : List String := ["eval", "list", "parse", "console", "help"]

/-- The requester of a level. Nothing can be told about a player who is not named. -/
def requesterOf (level : Level) : Except Stop RequesterOptions :=
  if (level.has "uuid" || level.has "offline") && !level.has "player" then .error .usage
  else .ok {
    player := level.value? "player"
    id := (level.value? "uuid").bind PlayerId.parse?
    isOffline := level.has "offline" }

/-- The action of a command with the operands of its level. -/
def actionOf (name : String) (operands : List String) : Except Stop Action :=
  match name, operands with
  | "eval", identifier :: args => .ok (.eval identifier args)
  | "list", [] => .ok .list
  | "parse", [code] => .ok (.parse code)
  | "console", [] => .ok .console
  | _, _ => .error .usage

/-- The values of an option: those behind the command, or else those before it. -/
def inner (outside inside : Level) (long : String) : List String :=
  if inside.has long then inside.values long else outside.values long

/-- The invocation that the two levels of a command line make. -/
def assemble (name : String) (outside inside : Level) : Except Stop Invocation :=
  match requesterOf inside, actionOf name inside.operands with
  | .ok requester, .ok action => .ok {
      dir := (inner outside inside "dir").head?
      config := (inner outside inside "config").head?
      logFormat := (inner outside inside "log-format").head?.bind logFormat?
      values := (inner outside inside "set").filterMap keyValue?
      requester
      action }
  | _, _ => .error .usage

/-- How many operands a command may have; any number, if none is given. -/
def mostOperands (name : String) : Option Nat :=
  if name = "eval" then none else if name = "parse" then some 1 else some 0

def optionsOf (name : String) : List OptionSpec :=
  if name = "list" then commonOptions else commonOptions ++ requesterOptions

/-- Reads a command line without the name of the program. -/
def read (words : List String) : Except Stop Invocation :=
  match readLevel rootOptions commandNames.contains (some 0) none words {} with
  | .error e => .error e
  | .ok outside =>
    match outside.command with
    | none => .error .usage
    | some (name, rest) =>
      if name = "help" then
        if rest.all (commandNames.contains ·) then .error .help else .error .usage
      else
        match readLevel (optionsOf name) (fun _ => false) (mostOperands name) none rest {} with
        | .error e => .error e
        | .ok inside => assemble name outside inside

/-- The settings of the environment with the options of the command line over them. -/
def Invocation.settings (invocation : Invocation) (environment : Settings) : Settings :=
  { environment with
    scriptsDir := invocation.dir.getD environment.scriptsDir
    configFile := invocation.config.orElse fun _ => environment.configFile
    logFormat := invocation.logFormat.getD environment.logFormat }

end PlaceholderScripts.CommandLine
