import PlaceholderScripts.Script.Builtin.Basic

/-!
# Built-in functions on lists, maps and ranges

Functions that change a list change it in place and give what they took out, or nothing. The entries
of a map are always in the order of their keys.
-/

namespace PlaceholderScripts.Script.Builtin

/-- Items of different types have no order. -/
def mixedItems : Fault := .noFunction "sort() cannot be called with elements of different types"

/-- Whether the second item may stand behind the first. -/
def inOrder : Value → Value → Bool
  | .int a, .int b => a ≤ b
  | .float a, .float b => !(b.numLt a)
  | .char a, .char b => a ≤ b
  | .text a, .text b => a ≤ b
  | .bool a, .bool b => !a || b
  | _, _ => true

/-- Sorts items of one type; items of a type without an order stay as they are. -/
def sorted (items : List Value) : Except Fault (List Value) :=
  match items with
  | [] | [_] => .ok items
  | first :: rest =>
    if rest.all fun v => v.fullTypeName = first.fullTypeName then .ok (items.mergeSort inOrder)
    else .error mixedItems

/-- The place of the first item equal to a value. -/
def itemIndex (v : Value) : List Value → Nat → Except Fault Int
  | [], _ => .ok (-1)
  | item :: items, n =>
    match equals item v with
    | .ok true => .ok n
    | .ok false => itemIndex v items (n + 1)
    | .error e => .error e

/-- Items without those that equal the one before them. -/
def dedup : List Value → Except Fault (List Value)
  | [] => .ok []
  | [v] => .ok [v]
  | a :: b :: rest =>
    match equals a b, dedup (b :: rest) with
    | .ok true, .ok (_ :: others) => .ok (a :: others)
    | .ok _, .ok others => .ok (a :: others)
    | .error e, _ => .error e
    | _, .error e => .error e

def changeList (items : List Value) (v : Value := .unit) : Result := change (.list items) v

/-- A list in three parts, of which the middle one begins at an index and has so many items, as far as
there are any. -/
def inThree (items : List Value) (start count : Int) : List Value × List Value × List Value :=
  let n := beginning items.length start
  let rest := items.drop n
  (items.take n, rest.take count.toNat, rest.drop count.toNat)

/-- Takes the items of a part out of a list. -/
def drainPart (items : List Value) (start count : Int) : Result :=
  let (before, part, after) := inThree items start count
  changeList (before ++ after) (.list part)

/-- Takes the items outside of a part out of a list; none, where the part is to be empty. -/
def retainPart (items : List Value) (start count : Int) : Result :=
  if count ≤ 0 then give (.list [])
  else
    let (before, part, after) := inThree items start count
    changeList part (.list (before ++ after))

/-- Puts other items in the place of a part. -/
def splicePart (items : List Value) (start count : Int) (others : List Value) : Result :=
  let (before, _, after) := inThree items start count
  changeList (before ++ others ++ after)

/-- Functions on a list. -/
def ofList (name : String) (items : List Value) (arguments : List Value) : Result :=
  match name, arguments with
  | "len", [] => give (.int items.length)
  | "is_empty", [] => give (.bool items.isEmpty)
  | "push", [v] => changeList (items ++ [v])
  | "append", [.list others] => changeList (items ++ others)
  | "insert", [.int index, v] =>
    let n := beginning items.length index
    changeList (items.take n ++ v :: items.drop n)
  | "pop", [] =>
    match items.getLast? with
    | some v => changeList items.dropLast v
    | none => give .unit
  | "shift", [] =>
    match items with
    | v :: rest => changeList rest v
    | [] => give .unit
  | "remove", [.int index] =>
    match place? items.length index with
    | some n => changeList (items.eraseIdx n) (items[n]?.getD .unit)
    | none => give .unit
  | "clear", [] => changeList []
  | "truncate", [.int n] => changeList (items.take n.toNat)
  | "chop", [.int n] => changeList (items.drop (items.length - n.toNat))
  | "pad", [.int n, v] => changeList (items ++ List.replicate (n.toNat - items.length) v)
  | "reverse", [] => changeList items.reverse
  | "sort", [] =>
    match sorted items with
    | .ok items => changeList items
    | .error e => refuse e
  | "sort_desc", [] =>
    match sorted items with
    | .ok items => changeList items.reverse
    | .error e => refuse e
  | "dedup", [] =>
    match dedup items with
    | .ok items => changeList items
    | .error e => refuse e
  | "contains", [v] => some ((listContains v items).map fun b => { value := .bool b })
  | "index_of", [v] => some ((itemIndex v items 0).map fun n => { value := .int n })
  | "index_of", [v, .int start] =>
    let n := beginning items.length start
    some ((itemIndex v (items.drop n) n).map fun n => { value := .int n })
  | "extract", [.int start] => give (.list (part items start items.length))
  | "extract", [.int start, .int count] => give (.list (part items start count))
  | "extract", [.range first last inclusive] =>
    let (start, count) := rangeBounds first last inclusive
    give (.list (part items start count))
  | "split", [.int index] =>
    let n := beginning items.length index
    changeList (items.take n) (.list (items.drop n))
  | "drain", [.int start, .int count] => drainPart items start count
  | "drain", [.range first last inclusive] =>
    let (start, count) := rangeBounds first last inclusive
    drainPart items start count
  | "retain", [.int start, .int count] => retainPart items start count
  | "retain", [.range first last inclusive] =>
    let (start, count) := rangeBounds first last inclusive
    retainPart items start count
  | "splice", [.int start, .int count, .list others] => splicePart items start count others
  | "splice", [.range first last inclusive, .list others] =>
    let (start, count) := rangeBounds first last inclusive
    splicePart items start count others
  | "get", [.int index] => give (((place? items.length index).bind (items[·]?)).getD .unit)
  | "set", [.int index, v] =>
    match place? items.length index with
    | some n => changeList (items.set n v)
    | none => give .unit
  | _, _ => none

def changeMap (entries : List (String × Value)) (v : Value := .unit) : Result := change (.map entries) v

def merged (entries others : List (String × Value)) : List (String × Value) :=
  others.foldl (fun es e => Entries.insert e.1 e.2 es) entries

mutual

/-- A value as it stands in the JSON text of a map. -/
def jsonText : Value → List Char
  | .unit => ['n', 'u', 'l', 'l']
  | .list items => '[' :: jsonItems items
  | .map entries => '\x7b' :: jsonEntries entries
  | .function name [] _ => (Text.quoted name).toList
  | .function name bound _ => '[' :: (Text.quoted name).toList ++ ',' :: jsonItems bound
  | v => v.innerText true

def jsonItems : List Value → List Char
  | [] => [']']
  | [v] => jsonText v ++ [']']
  | v :: rest => jsonText v ++ ',' :: jsonItems rest

def jsonEntries : List (String × Value) → List Char
  | [] => ['\x7d']
  | [(key, v)] => (Text.quoted key).toList ++ ':' :: jsonText v ++ ['\x7d']
  | (key, v) :: rest => (Text.quoted key).toList ++ ':' :: jsonText v ++ ',' :: jsonEntries rest

end

/-- Functions on a map. -/
def ofMap (name : String) (entries : List (String × Value)) (arguments : List Value) : Result :=
  match name, arguments with
  | "len", [] => give (.int entries.length)
  | "is_empty", [] => give (.bool entries.isEmpty)
  | "keys", [] => give (.list (entries.map fun e => .text e.1))
  | "values", [] => give (.list (entries.map fun e => e.2))
  | "to_json", [] => giveText (jsonText (.map entries))
  | "clear", [] => changeMap []
  | "contains", [.text key] => give (.bool (Entries.get? key entries).isSome)
  | "get", [.text key] => give ((Entries.get? key entries).getD .unit)
  | "set", [.text key, v] => changeMap (Entries.insert key v entries)
  | "remove", [.text key] =>
    match Entries.get? key entries with
    | some v => changeMap (Entries.erase key entries) v
    | none => give .unit
  | "mixin", [.map others] => changeMap (merged entries others)
  | "fill_with", [.map others] => changeMap (merged others entries)
  | _, _ => none

/-- Functions on a range. -/
def ofRange (name : String) (first last : Int) (inclusive : Bool) (arguments : List Value) : Result :=
  let last' := if inclusive then last + 1 else last
  match name, arguments with
  | "contains", [.int i] => give (.bool (first ≤ i && i < last'))
  | "is_empty", [] => give (.bool (last' ≤ first))
  | "start", [] => give (.int first)
  | "end", [] => give (.int last)
  | "is_inclusive", [] => give (.bool inclusive)
  | "is_exclusive", [] => give (.bool !inclusive)
  | _, _ => none

end PlaceholderScripts.Script.Builtin
