/-!
# Administrative commands

The words behind the name of a command line are a command: to list the scripts, to evaluate code, to
reload the scripts, to write or read the data of a script, or to explain all this. What is none of these
is kept as it was typed.
-/

namespace PlaceholderScripts

/-- On whose behalf code is evaluated: the sender of the command or nobody. -/
inductive ParseTarget where
  | me
  | anonymous
  deriving DecidableEq, Repr

inductive DebugAction where
  | saveData
  | loadData
  deriving DecidableEq, Repr

inductive ExpansionCommand where
  | list
  | parse (target : ParseTarget) (code : String)
  | reload
  | debug (action : DebugAction) (identifier : String)
  | help
  | unknown (text : String)
  deriving DecidableEq, Repr

namespace ExpansionCommand

/-- The command that words stand for. -/
def ofArgs (args : List String) : ExpansionCommand :=
  match args with
  | ["list"] => .list
  | ["reload"] => .reload
  | ["help"] | [] => .help
  | "parse" :: "me" :: word :: words => .parse .me (" ".intercalate (word :: words))
  | "parse" :: "anon" :: word :: words => .parse .anonymous (" ".intercalate (word :: words))
  | ["debug", "savedata", identifier] => .debug .saveData identifier
  | ["debug", "loaddata", identifier] => .debug .loadData identifier
  | args => .unknown (" ".intercalate args)

/-- A usage and its explanation, which begins in the thirty-third column. -/
def helpLine (usage description : String) : String :=
  usage ++ String.ofList (List.replicate (32 - usage.length) ' ') ++ description

/-- The line of help for a command. -/
def help? : ExpansionCommand → Option String
  | .list => some (helpLine "list" "List loaded scripts")
  | .parse _ _ => some (helpLine "parse <me|anon> <code>" "Evaluate code as a script")
  | .reload => some (helpLine "reload" "Reload the script configuration")
  | .debug _ _ => some (helpLine "debug <savedata|loaddata> <id>" "Flush or re-read a script's data")
  | .help => some (helpLine "help" "Print command help")
  | .unknown _ => none

/-- A command of each kind, in the order of the help. -/
def kinds : List ExpansionCommand :=
  [.list, .parse .me "", .reload, .debug .saveData "", .help, .unknown ""]

end ExpansionCommand

end PlaceholderScripts
