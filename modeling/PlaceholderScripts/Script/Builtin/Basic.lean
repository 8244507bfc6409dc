import PlaceholderScripts.Script.Operator

/-!
# What built-in functions give back

A built-in function may change the value it is called on. The indices that scripts use count from the
end when they are negative.
-/

namespace PlaceholderScripts.Script.Builtin

/-- The value of a function, and its first argument, if that was changed. -/
structure Outcome where
  value : Value
  changed : Option Value := none

/-- What a function does with arguments of the types it knows. -/
abbrev Result := Option (Except Fault Outcome)

def give (v : Value) : Result := some (.ok { value := v })

def change (first : Value) (v : Value := .unit) : Result := some (.ok ⟨v, some first⟩)

def refuse (fault : Fault) : Result := some (.error fault)

def giveText (cs : List Char) : Result := give (.text (String.ofList cs))

def changeText (cs : List Char) (v : Value := .unit) : Result := change (.text (String.ofList cs)) v

/-- The place in a sequence that an index stands for, if it is inside. -/
def place? (length : Nat) (index : Int) : Option Nat :=
  let i := if index < 0 then (length : Int) + index else index
  if 0 ≤ i && i < length then some i.toNat else none

/-- The place where a part begins: the ends of the sequence, where the index is outside. -/
def beginning (length : Nat) (index : Int) : Nat :=
  if index < 0 then ((length : Int) + index).toNat else min index.toNat length

def part {α : Type} (xs : List α) (start : Int) (count : Int) : List α :=
  (xs.drop (beginning xs.length start)).take count.toNat

/-- The beginning and the number of the items of a range. -/
def rangeBounds (first last : Int) (inclusive : Bool) : Int × Int :=
  let start := max first 0
  (start, max 0 ((if inclusive then last + 1 else last) - start))

/-- The place of the first occurrence of a piece. -/
def find? (piece : List Char) : List Char → Nat → Option Nat
  | [], n => if piece.isEmpty then some n else none
  | c :: rest, n => if piece.isPrefixOf (c :: rest) then some n else find? piece rest (n + 1)

/-- A character or a text as a sequence of characters. -/
def piece? : Value → Option (List Char)
  | .char c => some [c]
  | .text s => some s.toList
  | _ => none

end PlaceholderScripts.Script.Builtin
