import PlaceholderScripts.Script.Run

/-!
# Functions and properties of the objects of the host

Scripts read and write their data, see the server and its players, and substitute placeholders on
behalf of a player or of nobody.
-/

namespace PlaceholderScripts.Script.HostObject

/-- Text that is there or unit. -/
def optionalText : Option String → Value
  | some s => .text s
  | none => .unit

/-- A property of an object. -/
def property? (name : String) : HostObject → Option Value
  | .server s =>
    match name with
    | "name" => some (.text s.name)
    | "version" => some (.text s.version)
    | _ => none
  | .player p =>
    match name with
    | "name" => some (.text p.name)
    | "uuid" => some (.text p.id.text)
    | "display_name" => some (.text p.displayName)
    | "world" => some (optionalText p.world)
    | "is_online" => some (.bool true)
    | _ => none
  | .offlinePlayer p =>
    match name with
    | "name" => some (optionalText p.name)
    | "uuid" => some (.text p.id.text)
    | "is_online" => some (.bool p.online)
    | _ => none
  | .expansion e =>
    match name with
    | "identifier" => some (.text e.identifier)
    | "author" => some (.text e.author)
    | "version" => some (.text e.version)
    | _ => none
  | .placeholder identifier template =>
    match name with
    | "identifier" => some (.text identifier)
    | "script" => some (.text template)
    | "data" => some (.host .data)
    | _ => none
  | .data | .substitution => none

abbrev Answer := Hosted (Except Fault Value)

def answer (v : Value) : Answer := .done (.ok v)

def fail (message : String) : Answer := .done (.error (.thrown (.text message)))

/-- A stored value for the script; unit, where there is none. -/
def ofStored : Option Datum → Value
  | some d => .ofDatum d
  | none => .unit

/-- The message about a value that cannot be stored. -/
def notStorable (key type : String) : String :=
  "Value cannot be stored under '" ++ key ++ "': Output type incorrect: " ++ type ++
    " (expecting serde_json::value::Value)"

def save : Answer :=
  .ask HostCall.save fun
    | .ok () => answer .unit
    | .error e => fail e.message

/-- Functions on the data of the script. -/
def dataFunction (name : String) (arguments : List Value) : Option Answer :=
  match name, arguments with
  | "get", [.text key] => some (.ask (HostCall.get key) fun d => answer (ofStored d))
  | "get_or", [.text key, default_] =>
    some (.ask (HostCall.get key) fun
      | some d => answer (.ofDatum d)
      | none => answer default_)
  | "set", [.text key, v] =>
    match v.toDatum with
    | .ok d => some (.ask (HostCall.set key d) fun () => answer .unit)
    | .error type => some (fail (notStorable key type))
  | "exists", [.text key] => some (.ask (HostCall.get key) fun d => answer (.bool d.isSome))
  | "remove", [.text key] => some (.ask (HostCall.remove key) fun d => answer (ofStored d))
  | "clear", [] => some (.ask HostCall.clear fun () => answer .unit)
  | "keys", [] => some (.ask HostCall.keys fun keys => answer (.list (keys.map .text)))
  | "save", [] => some save
  | _, _ => none

/-- Substitutes the placeholders of a text. -/
def substitute (form : TokenForm) (identity : Identity) (text : String) : Answer :=
  .ask (HostCall.substitute form identity text) fun
    | .ok s => answer (.text s)
    | .error e => fail e.message

/-- The text to substitute in, on behalf of whom. -/
def substituteFor (form : TokenForm) : List Value → Option Answer
  | [.text s] => some (substitute form .anonymous s)
  | [.host (.player p), .text s] => some (substitute form (.online p) s)
  | [.host (.offlinePlayer p), .text s] => some (substitute form (.offline p) s)
  | _ => none

/-- A function on an object. -/
def function? (name : String) (object : HostObject) (arguments : List Value) : Option Answer :=
  match object with
  | .data => dataFunction name arguments
  | .server s =>
    match name, arguments with
    | "online_players", [] => some (answer (.list (s.players.map fun p => .host (.player p))))
    | "player", [.text wanted] =>
      some (answer (match s.player? wanted with
        | some p => .host (.player p)
        | none => .unit))
    | _, _ => none
  | .placeholder _ _ =>
    match name, arguments with
    | "save_data", [] => some save
    | _, _ => none
  | .substitution =>
    match name with
    | "set_placeholders" => substituteFor .percent arguments
    | "set_bracket_placeholders" => substituteFor .bracket arguments
    | _ => none
  | .player _ | .offlinePlayer _ | .expansion _ => none

end PlaceholderScripts.Script.HostObject
