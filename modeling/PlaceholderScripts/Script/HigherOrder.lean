import PlaceholderScripts.Script.Frame

/-!
# Built-in functions that call functions

Lists and maps are mapped, filtered, searched, folded and sorted by functions of the script. A function
is handed an item, and the number of the item as well, if it takes one argument more. With one argument
less it finds the item as its object.
-/

namespace PlaceholderScripts.Script.HigherOrder

/-- How a function value is called: with an object and arguments. -/
abbrev Apply := Value → Option Value → List Value → Run (Value × Option Value)

structure Callback where
  function : Value
  count : Option Nat
  apply : Apply

namespace Callback

/-- Calls the function for an item, before which other arguments stand. -/
def on (c : Callback) (before : List Value) (item : Value) (after : List Value) : Run Value := do
  let n := before.length
  if c.count = some n then return (← c.apply c.function (some item) before).1
  else if c.count = some (n + 1 + after.length) then
    return (← c.apply c.function none (before ++ item :: after)).1
  else return (← c.apply c.function none (before ++ [item])).1

/-- Whether the function gives `true` for an item. -/
def holds (c : Callback) (item : Value) (n : Nat) : Run Bool := do
  match ← c.on [] item [.int n] with
  | .bool b => return b
  | _ => return false

def map (c : Callback) : List Value → Nat → Run (List Value)
  | [], _ => return []
  | item :: items, n => do
    let v ← c.on [] item [.int n]
    return v :: (← c.map items (n + 1))

/-- The items for which the function gives `true`, and the others. -/
def partition (c : Callback) : List Value → Nat → Run (List Value × List Value)
  | [], _ => return ([], [])
  | item :: items, n => do
    let b ← c.holds item n
    let (yes, no) ← c.partition items (n + 1)
    return if b then (item :: yes, no) else (yes, item :: no)

/-- The first item for which the function gives `true`, and its number. -/
def find (c : Callback) : List Value → Nat → Run (Option (Value × Nat))
  | [], _ => return none
  | item :: items, n => do
    if ← c.holds item n then return some (item, n)
    else c.find items (n + 1)

def fold (c : Callback) : List Value → Nat → Value → Run Value
  | [], _, v => return v
  | item :: items, n, v => do c.fold items (n + 1) (← c.on [v] item [.int n])

/-- Folds from the last item to the first. -/
def foldBack (c : Callback) : List (Nat × Value) → Value → Run Value
  | [], v => return v
  | (n, item) :: items, v => do c.foldBack items (← c.on [v] item [.int n])

/-- What the function first gives for an item that is not unit. -/
def findMap (c : Callback) : List Value → Nat → Run Value
  | [], _ => return .unit
  | item :: items, n => do
    match ← c.on [] item [.int n] with
    | .unit => c.findMap items (n + 1)
    | v => return v

/-- What the function gives for the items of two lists at the same places. -/
def zip (c : Callback) : List (Value × Value) → Nat → Run (List Value)
  | [], _ => return []
  | (x, y) :: rest, n => do
    let arguments := if c.count = some 3 then [x, y, Value.int n] else [x, y]
    let (v, _) ← c.apply c.function none arguments
    return v :: (← c.zip rest (n + 1))

/-- What the function gives for some arguments; unit, where it fails. -/
def tried (c : Callback) (arguments : List Value) : Run Value := do
  match ← Run.attempt (c.apply c.function none arguments) with
  | .ok (v, _) => return v
  | .error (.error _) => return .unit
  | .error s => throw s

/-- Calls the function with each item as its object, and gives the items as they are then. -/
def each (c : Callback) : List Value → Nat → Run (List Value)
  | [], _ => return []
  | item :: items, n => do
    let arguments := if c.count = some 0 then [] else [Value.int n]
    let (_, changed) ← c.apply c.function (some item) arguments
    return changed.getD item :: (← c.each items (n + 1))

/-- Whether the result of a comparison puts its first item before its second. -/
def comesFirst : Value → Bool
  | .int i => i < 0
  | .bool b => b
  | _ => false

/-- Puts an item behind those that the function does not order after it. -/
def insert (c : Callback) (item : Value) : List Value → Run (List Value)
  | [] => return [item]
  | other :: rest => do
    if comesFirst (← c.tried [item, other]) then return item :: other :: rest
    else return other :: (← c.insert item rest)

def sort (c : Callback) : List Value → List Value → Run (List Value)
  | [], done => return done
  | item :: items, done => do c.sort items (← c.insert item done)

/-- Items without those that the function calls equal to the one kept before them. -/
def dedup (c : Callback) : List Value → Option Value → Run (List Value)
  | [], _ => return []
  | item :: items, none => return item :: (← c.dedup items (some item))
  | item :: items, some kept => do
    match ← c.tried [kept, item] with
    | .bool true => c.dedup items (some kept)
    | _ => return item :: (← c.dedup items (some item))

/-- The entries of a map for which the function gives `true`, and the others. -/
def partitionEntries (c : Callback) :
    List (String × Value) → Run (List (String × Value) × List (String × Value))
  | [] => return ([], [])
  | (key, v) :: entries => do
    let b ← match ← c.apply c.function none [.text key, v] with
      | (.bool b, _) => pure b
      | _ => pure false
    let (yes, no) ← c.partitionEntries entries
    return if b then ((key, v) :: yes, no) else (yes, (key, v) :: no)

end Callback

def give (v : Value) : Run Builtin.Outcome := return { value := v }

def change (first v : Value) : Run Builtin.Outcome := return ⟨v, some first⟩

/-- Functions on a list that take a function. -/
def ofList (name : String) (items : List Value) (c : Callback) (others : List Value) :
    Option (Run Builtin.Outcome) :=
  match name, others with
  | "map", [] => some do give (.list (← c.map items 0))
  | "filter", [] => some do give (.list (← c.partition items 0).1)
  | "for_each", [] => some do change (.list (← c.each items 0)) .unit
  | "reduce", [] => some do give (← c.fold items 0 .unit)
  | "reduce", [first] => some do give (← c.fold items 0 first)
  | "reduce_rev", [] => some do
    give (← c.foldBack (items.mapIdx fun n v => (n, v)).reverse .unit)
  | "reduce_rev", [first] => some do
    give (← c.foldBack (items.mapIdx fun n v => (n, v)).reverse first)
  | "find_map", [] => some do give (← c.findMap items 0)
  | "dedup", [] => some do change (.list (← c.dedup items none)) .unit
  | "some", [] => some do give (.bool (← c.find items 0).isSome)
  | "all", [] => some do give (.bool (← c.partition items 0).2.isEmpty)
  | "find", [] =>
    some do give (((← c.find items 0).map Prod.fst).getD .unit)
  | "index_of", [] =>
    some do give (match ← c.find items 0 with
      | some (_, n) => .int n
      | none => .int (-1))
  | "retain", [] => some do
    let (yes, no) ← c.partition items 0
    change (.list yes) (.list no)
  | "drain", [] => some do
    let (yes, no) ← c.partition items 0
    change (.list no) (.list yes)
  | "sort", [] => some do change (.list (← c.sort items [])) .unit
  | _, _ => none

/-- Functions on two lists that take a function. -/
def ofLists (name : String) (items others : List Value) (c : Callback) :
    Option (Run Builtin.Outcome) :=
  match name with
  | "zip" => some do give (.list (← c.zip (items.zip others) 0))
  | _ => none

/-- Functions on a map that take a function. -/
def ofMap (name : String) (entries : List (String × Value)) (c : Callback) :
    Option (Run Builtin.Outcome) :=
  match name with
  | "filter" => some do give (.map (← c.partitionEntries entries).1)
  | "retain" => some do
    let (yes, no) ← c.partitionEntries entries
    change (.map yes) (.map no)
  | "drain" => some do
    let (yes, no) ← c.partitionEntries entries
    change (.map no) (.map yes)
  | _ => none

end PlaceholderScripts.Script.HigherOrder
