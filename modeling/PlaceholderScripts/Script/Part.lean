import PlaceholderScripts.Script.Run

/-!
# Parts of values

Items of lists, entries of maps, characters of texts and bits of integers are reached by an index, and
entries of maps also by their names. A missing entry of a map reads as unit. An index counts from the
end when it is negative.
-/

namespace PlaceholderScripts.Script.Part

/-- The place of an index, which must be an integer inside of the sequence. -/
def place (length : Nat) (bounds : Int → Fault) (index : Value) : Except Fault Nat :=
  match index with
  | .int i =>
    match Builtin.place? length i with
    | some n => .ok n
    | none => .error (bounds i)
  | v => .error (.wrongType "i64" v.typeName)

def types (v index : Value) : String := v.typeName ++ " [" ++ index.typeName ++ "]"

/-- The characters of a range of a text. -/
def textRange (cs : List Char) (first last : Int) (inclusive : Bool) : Except Fault Value :=
  let stop := if inclusive then last + 1 else last
  if first < 0 || first ≥ cs.length then .error (.textBounds cs.length first)
  else if stop < 0 || stop > cs.length then .error (.textBounds cs.length last)
  else .ok (.text (String.ofList ((cs.drop first.toNat).take (stop - first).toNat)))

/-- The part of a value under an index. -/
def get (v index : Value) : Except Fault Value :=
  match v with
  | .list items => (place items.length (.listBounds items.length) index).map fun n => items[n]?.getD .unit
  | .map entries =>
    match index with
    | .text key => .ok ((Entries.get? key entries).getD .unit)
    | i => .error (.wrongType "string" i.typeName)
  | .int i =>
    (place integerBits .bitBounds index).map fun n => .bool ((BitVec.ofInt 64 i).getLsbD n)
  | .text s =>
    let cs := s.toList
    match index with
    | .range first last inclusive => textRange cs first last inclusive
    | i => (place cs.length (.textBounds cs.length) i).map fun n => .char (cs[n]?.getD ' ')
  | v => .error (.notIndexed (types v index))

/-- The value with another part under an index. -/
def set (v index new : Value) : Except Fault Value :=
  match v with
  | .list items =>
    (place items.length (.listBounds items.length) index).map fun n => .list (items.set n new)
  | .map entries =>
    match index with
    | .text key => .ok (.map (Entries.insert key new entries))
    | i => .error (.wrongType "string" i.typeName)
  | .int i =>
    match new with
    | .bool b =>
      (place integerBits .bitBounds index).map fun n =>
        let bits := BitVec.ofInt 64 i
        let bit := BitVec.twoPow 64 n
        .int (if b then bits ||| bit else bits &&& ~~~bit).toInt
    | new => .error (.wrongType "bool" new.typeName)
  | .text s =>
    let cs := s.toList
    match new with
    | .char c =>
      (place cs.length (.textBounds cs.length) index).map fun n => .text (String.ofList (cs.set n c))
    | new => .error (.wrongType "char" new.typeName)
  | v => .error (.notIndexed (types v index ++ " = " ++ new.typeName))

/-- Whether a changed part belongs to the value. A missing entry of a map is not made by reading it. -/
def isKept (v index : Value) : Bool :=
  match v, index with
  | .map entries, .text key => (Entries.get? key entries).isSome
  | .map _, _ | .int _, _ => false
  | _, _ => true

end PlaceholderScripts.Script.Part
