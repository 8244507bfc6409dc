import PlaceholderScripts.Script.Builtin
import PlaceholderScripts.Store

/-!
# Runs of scripts

A run of a script keeps variables and asks its host: for the data of the script and for the substitution
of placeholders. It ends with a value or with a signal, and whatever it changed before a signal stays
changed.

Variables live in a stack of names. Functions without a name share variables with their surroundings;
such a variable holds the number of a cell, and the cell holds the value.
-/

namespace PlaceholderScripts.Script

inductive HostCall where
  | get (key : String)
  | set (key : String) (value : Datum)
  | remove (key : String)
  | clear
  | keys
  | save
  | substitute (form : TokenForm) (identity : Identity) (text : String)

/-- What the host replies. -/
def HostCall.Reply : HostCall → Type
  | .get _ => Option Datum
  | .set _ _ => Unit
  | .remove _ => Option Datum
  | .clear => Unit
  | .keys => List String
  | .save => Except DataError Unit
  | .substitute _ _ _ => Except SubstitutionError String

abbrev Hosted := Dialogue HostCall HostCall.Reply

structure Variable where
  name : String
  value : Value
  constant : Bool := false
  /-- The names under which the variable can be read from outside of a module. -/
  exports : List String := []

structure State where
  /-- The variables, the latest one first. -/
  scope : List Variable := []
  cells : List Value := []
  /-- The object of the method that is running. -/
  self : Option Value := none
  /-- How many blocks and functions the running code is inside of. -/
  level : Nat := 0
  /-- The constants of the main part, which functions can read by their path. -/
  constants : List (String × Value) := []

inductive Signal where
  | error (e : ScriptError)
  | returned (v : Value)
  | broke (v : Value)
  | continued
  /-- The script asked to end with a value. -/
  | exited (v : Value)
  /-- A loop went on for more rounds than it may. -/
  | exhausted

abbrev Run := ExceptT Signal (StateT State Hosted)

namespace Run

def host {α : Type} (d : Hosted α) : Run α := ExceptT.lift (StateT.lift d)

/-- Goes on after a signal, which becomes the result. -/
def attempt {α : Type} (r : Run α) : Run (Except Signal α) := ExceptT.lift r.run

/-- Ends like a run that was attempted. -/
def conclude {α : Type} : Except Signal α → Run α
  | .ok a => pure a
  | .error s => throw s

def raise {α : Type} (fault : Fault) (l : Location) : Run α := throw (.error (.raised fault l))

/-- A result, or its fault at a place. -/
def located {α : Type} (l : Location) : Except Fault α → Run α
  | .ok a => pure a
  | .error fault => raise fault l

/-- Runs with the variables declared inside forgotten afterwards, however the run ends. -/
def enclosed {α : Type} (r : Run α) : Run α := do
  let outer ← get
  set { outer with level := outer.level + 1 }
  let outcome ← attempt r
  modify fun s =>
    { s with
      scope := s.scope.drop (s.scope.length - outer.scope.length)
      level := outer.level }
  conclude outcome

/-- The value of a variable's contents. -/
def contents (cells : List Value) : Value → Value
  | .cell id => cells[id]?.getD .unit
  | v => v

def lookup? (name : String) : Run (Option Variable) := do
  return (← get).scope.find? fun v => v.name = name

/-- The variable of a name that must be there. -/
def lookup (name : String) (l : Location) : Run Variable := do
  match ← lookup? name with
  | some v => return v
  | none => raise (.noVariable name) l

/-- The value of a variable. -/
def read (name : String) (l : Location) : Run Value := do
  let v ← lookup name l
  return contents (← get).cells v.value

def declare (v : Variable) : Run Unit := modify fun s => { s with scope := v :: s.scope }

/-- The variables with the latest one of a name changed. -/
def changeIn (name : String) (f : Variable → Variable) : List Variable → List Variable
  | [] => []
  | v :: rest => if v.name = name then f v :: rest else v :: changeIn name f rest

/-- Puts a value into the latest variable of a name, or into the cell that it holds. -/
def write (name : String) (value : Value) : Run Unit :=
  modify fun s =>
    match s.scope.find? fun v => v.name = name with
    | some ⟨_, .cell id, _, _⟩ => { s with cells := s.cells.set id value }
    | _ => { s with scope := changeIn name (fun v => { v with value }) s.scope }

/-- The cell of a variable, which from now on is shared. -/
def share (name : String) (l : Location) : Run Value := do
  let v ← lookup name l
  match v.value with
  | .cell id => return .cell id
  | value =>
    let id := (← get).cells.length
    modify fun s =>
      { s with
        cells := s.cells ++ [value]
        scope := changeIn name (fun v => { v with value := .cell id }) s.scope }
    return .cell id

/-- Lets a variable be read from outside under a name. -/
def exportVariable (name alias_ : String) (l : Location) : Run Unit := do
  let _ ← lookup name l
  modify fun s =>
    { s with scope := changeIn name (fun v => { v with exports := alias_ :: v.exports }) s.scope }

/-- One round of a loop: nothing, or the value that ends the loop. -/
def round (body : Run Value) : Run (Option Value) := do
  match ← attempt body with
  | .ok _ | .error .continued => return none
  | .error (.broke v) => return some v
  | .error s => throw s

/-- Repeats a round while the check before it holds, for at most so many rounds. -/
def repeatWhile (check : Run Bool) (body : Run Value) : Nat → Run Value
  | 0 => throw .exhausted
  | rounds + 1 => do
    if ← check then
      match ← round body with
      | some v => return v
      | none => repeatWhile check body rounds
    else return .unit

/-- Repeats a round while the check behind it holds, for at most so many rounds. -/
def repeatUntil (check : Run Bool) (body : Run Value) : Nat → Run Value
  | 0 => throw .exhausted
  | rounds + 1 => do
    match ← round body with
    | some v => return v
    | none => if ← check then repeatUntil check body rounds else return .unit

/-- A round for each item, with the number of the round. -/
def forItems (body : Value → Nat → Run Value) : List Value → Nat → Run Value
  | [], _ => return .unit
  | item :: items, n => do
    match ← round (body item n) with
    | some v => return v
    | none => forItems body items (n + 1)

/-- A round for each of `count` integers at equal distances. -/
def forIntegers (body : Value → Nat → Run Value) (step first : Int) (n : Nat) : Nat → Run Value
  | 0 => return .unit
  | count + 1 => do
    match ← round (body (.int first) n) with
    | some v => return v
    | none => forIntegers body step (first + step) (n + 1) count

end Run

end PlaceholderScripts.Script
