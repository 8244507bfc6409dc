/-!
# Options and operands

The words of a command line are options, the values of options, and operands. Long options begin with
two dashes, and an equals sign may stand before their value; short options begin with one dash and may
stand behind each other, the value of the last one right behind it. A word that begins with a dash is
never the value of the option before it, a single dash apart. Behind two dashes all words are operands.
-/

namespace PlaceholderScripts.CommandLine

/-- What an option is for. -/
inductive OptionKind where
  /-- It takes a value, and may occur once. -/
  | value
  /-- It takes a value each time it occurs. -/
  | values
  /-- It takes no value, and may occur once. -/
  | flag
  | help
  | version
  deriving DecidableEq, Repr

/-- An option, whether it takes the value given to it, and its names. -/
structure OptionSpec where
  long : String
  short : Option Char := none
  kind : OptionKind
  accepts : String → Bool := fun _ => true

/-- Why the reading of a command line ends before its end. -/
inductive Stop where
  | usage
  | help
  | version
  deriving DecidableEq, Repr

/-- The options and operands of one level, in the order in which they came, and the command that begins
the next level with the words behind it. -/
structure Level where
  options : List (String × String) := []
  operands : List String := []
  command : Option (String × List String) := none
  deriving DecidableEq, Repr

namespace Level

def values (level : Level) (long : String) : List String :=
  (level.options.filter fun o => o.1 = long).map Prod.snd

/-- The value of an option that may occur once. -/
def value? (level : Level) (long : String) : Option String := level.options.lookup long

def has (level : Level) (long : String) : Bool := (level.value? long).isSome

/-- Adds an occurrence of an option, if it may stand there. -/
def add (level : Level) (option : OptionSpec) (value : String) : Except Stop Level :=
  match option.kind with
  | .help => .error .help
  | .version => .error .version
  | .values =>
    if option.accepts value then .ok { level with options := level.options ++ [(option.long, value)] }
    else .error .usage
  | .value | .flag =>
    if level.has option.long || !option.accepts value then .error .usage
    else .ok { level with options := level.options ++ [(option.long, value)] }

end Level

/-- Whether an option takes a value. -/
def OptionKind.takesValue : OptionKind → Bool
  | .value | .values => true
  | _ => false

/-- What a word means by itself. -/
inductive Word where
  /-- Two dashes. -/
  | separator
  | long (name : List Char) (value : Option (List Char))
  | short (letters : List Char)
  | plain
  deriving DecidableEq, Repr

/-- The text before an equals sign, and the one behind it, if there is one. -/
def splitValue (cs : List Char) : List Char × Option (List Char) :=
  match cs.dropWhile (· ≠ '=') with
  | _ :: value => (cs.takeWhile (· ≠ '='), some value)
  | [] => (cs, none)

def Word.ofText (text : String) : Word :=
  match text.toList with
  | ['-', '-'] => .separator
  | '-' :: '-' :: rest =>
    let (name, value) := splitValue rest
    .long name value
  | '-' :: c :: rest => .short (c :: rest)
  | _ => .plain

/-- The option that waits for its value behind short options, or none. -/
def readShort (specs : List OptionSpec) : List Char → Level → Except Stop (Level × Option OptionSpec)
  | [], level => .ok (level, none)
  | c :: rest, level =>
    match specs.find? fun o => o.short = some c with
    | none => .error .usage
    | some option =>
      if option.kind.takesValue then
        match rest with
        | [] => .ok (level, some option)
        | '=' :: value => (level.add option (String.ofList value)).map fun l => (l, none)
        | value => (level.add option (String.ofList value)).map fun l => (l, none)
      else
        match level.add option "" with
        | .ok level => readShort specs rest level
        | .error e => .error e

/-- Reads a long option, and gives the one that waits for its value, if it does. -/
def readLong (specs : List OptionSpec) (name : List Char) (value : Option (List Char)) (level : Level) :
    Except Stop (Level × Option OptionSpec) :=
  match specs.find? fun o => o.long.toList = name with
  | none => .error .usage
  | some option =>
    match option.kind.takesValue, value with
    | true, none => .ok (level, some option)
    | true, some v => (level.add option (String.ofList v)).map fun l => (l, none)
    | false, none => (level.add option "").map fun l => (l, none)
    | false, some _ => .error .usage

/-- Reads words as options and operands up to a command. `pending` is the option that waits for its
value, and `most` is how many operands there may be. -/
def readLevel (specs : List OptionSpec) (isCommand : String → Bool) (most : Option Nat) :
    Option OptionSpec → List String → Level → Except Stop Level
  | none, [], level => .ok level
  | some _, [], _ => .error .usage
  | some option, word :: rest, level =>
    if Word.ofText word = .plain then
      match level.add option word with
      | .ok level => readLevel specs isCommand most none rest level
      | .error e => .error e
    else .error .usage
  | none, word :: rest, level =>
    let room (more : Nat) : Bool := match most with
      | some n => level.operands.length + more ≤ n
      | none => true
    if isCommand word then .ok { level with command := some (word, rest) }
    else
      match Word.ofText word with
      | .separator =>
        if room rest.length then .ok { level with operands := level.operands ++ rest }
        else .error .usage
      | .long name value =>
        match readLong specs name value level with
        | .ok (level, pending) => readLevel specs isCommand most pending rest level
        | .error e => .error e
      | .short letters =>
        match readShort specs letters level with
        | .ok (level, pending) => readLevel specs isCommand most pending rest level
        | .error e => .error e
      | .plain =>
        if room 1 then
          readLevel specs isCommand most none rest { level with operands := level.operands ++ [word] }
        else .error .usage

end PlaceholderScripts.CommandLine
