import PlaceholderScripts.Script.Value

/-!
# Bindings

Named values for a script, in the order in which the names first came. A later value of a name takes
the place of the earlier one.
-/

namespace PlaceholderScripts

structure Bindings where
  entries : List (String × Script.Value) := []

namespace Bindings

def empty : Bindings := {}

/-- Puts a value in the place of the earlier one, or behind all others. -/
def insertIn (name : String) (value : Script.Value) :
    List (String × Script.Value) → List (String × Script.Value)
  | [] => [(name, value)]
  | (x, v) :: rest => if x = name then (x, value) :: rest else (x, v) :: insertIn name value rest

def insert (b : Bindings) (name : String) (value : Script.Value) : Bindings :=
  ⟨insertIn name value b.entries⟩

def ofList (pairs : List (String × Script.Value)) : Bindings :=
  pairs.foldl (fun b p => b.insert p.1 p.2) empty

def get? (b : Bindings) (name : String) : Option Script.Value := Entries.get? name b.entries

def contains (b : Bindings) (name : String) : Bool := (b.get? name).isSome

def names (b : Bindings) : List String := b.entries.map Prod.fst

def size (b : Bindings) : Nat := b.entries.length

def isEmpty (b : Bindings) : Bool := b.entries.isEmpty

end Bindings

end PlaceholderScripts
