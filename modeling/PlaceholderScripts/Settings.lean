import PlaceholderScripts.Clock
import PlaceholderScripts.Files.Path
import PlaceholderScripts.Number.Decimal
import PlaceholderScripts.Text.Casing

/-!
# Settings

Where the scripts are, what is logged, and how often expired results are dropped. The settings are taken
from the variables of the environment, and what is not set there or not understood has a default.
-/

namespace PlaceholderScripts

inductive LogFormat where
  | text
  | json
  deriving DecidableEq, Repr

structure Settings where
  scriptsDir : Path := "scripts"
  configFile : Option Path := none
  logLevel : String := "warn,scriptex::script=info"
  logFormat : LogFormat := .text
  /-- The seconds between two cleanings. -/
  cleanupSeconds : Nat := 60
  deriving DecidableEq, Repr

namespace Settings

def configName : Path := "scripts.yml"

/-- The format of a name, in any letter case; text, where the name is not known. -/
def logFormatOf (name : String) : LogFormat :=
  if Text.toLower name.toList = "json".toList then .json else .text

/-- A number of seconds that is not zero and has at most 64 bits, if the text is one. -/
def seconds? (text : String) : Option Nat :=
  let digits := match text.toList with
    | '+' :: rest => rest
    | cs => cs
  (Decimal.nat? 10 digits).filter fun n => 0 < n && n < 2 ^ 64

/-- The variables that the settings are taken from. -/
def variableNames : List String :=
  ["SCRIPTEX_DIR", "SCRIPTEX_CONFIG", "RUST_LOG", "SCRIPTEX_LOG_LEVEL", "SCRIPTEX_LOG_FORMAT",
    "SCRIPTEX_CLEANUP_INTERVAL"]

/-- The settings for the variables of an environment. -/
def ofLookup (variable_ : String → Option String) : Settings :=
  let defaults : Settings := {}
  { scriptsDir := (variable_ "SCRIPTEX_DIR").getD defaults.scriptsDir
    configFile := variable_ "SCRIPTEX_CONFIG"
    logLevel :=
      ((variable_ "RUST_LOG").orElse fun _ => variable_ "SCRIPTEX_LOG_LEVEL").getD defaults.logLevel
    logFormat := ((variable_ "SCRIPTEX_LOG_FORMAT").map logFormatOf).getD defaults.logFormat
    cleanupSeconds :=
      ((variable_ "SCRIPTEX_CLEANUP_INTERVAL").bind seconds?).getD defaults.cleanupSeconds }

/-- The script configuration: the file that is set, or the one of the usual name. -/
def configPath (settings : Settings) : Path :=
  settings.configFile.getD (Path.join settings.scriptsDir configName)

end Settings

end PlaceholderScripts
