import PlaceholderScripts.Script.Builtin.Basic
import PlaceholderScripts.Text.Casing

/-!
# Built-in functions on texts

Texts are sequences of characters. Some functions give a new text, others change the one that they are
called on and give nothing.
-/

namespace PlaceholderScripts.Script.Builtin

/-- The part of a text from an index on; nothing, where the index is outside. -/
def subText (cs : List Char) (start count : Int) : List Char :=
  if count ≤ 0 || start ≥ cs.length then [] else part cs start count

/-- Where a piece occurs first, from an index on. -/
def indexOf (cs piece : List Char) (start : Int) : Value :=
  if cs.isEmpty || start ≥ cs.length then .int (-1)
  else
    let from_ := beginning cs.length start
    match find? piece (cs.drop from_) from_ with
    | some n => .int n
    | none => .int (-1)

def pieces (list : List (List Char)) : Value := .list (list.map fun cs => .text (String.ofList cs))

/-- At most `count` pieces, but at least one. The last of them is the rest of the text. -/
def splitAtMost (piece : List Char) (count : Int) (cs : List Char) : List (List Char) :=
  let all := TextOperation.split piece cs
  let n := max 1 count.toNat
  if n ≥ all.length then all
  else all.take (n - 1) ++ [piece.intercalate (all.drop (n - 1))]

/-- The same from the end of the text, where the last piece comes first. -/
def splitAtMostFromEnd (piece : List Char) (count : Int) (cs : List Char) : List (List Char) :=
  (splitAtMost piece.reverse count cs.reverse).map List.reverse

/-- The text with a filling behind it, up to a length. -/
def padded (cs : List Char) (length : Int) (filling : List Char) : List Char :=
  let missing := length.toNat - cs.length
  if filling.isEmpty then cs
  else cs ++ ((List.replicate missing filling).flatten).take missing

/-- The letters in the other case, where that is a single character. -/
def changeCase (f : List Char → List Char) (c : Char) : Char :=
  match f [c] with
  | [d] => d
  | _ => c

/-- Functions that tell about a text or give a part of it. -/
def askText (name : String) (s : String) (arguments : List Value) : Result :=
  let cs := s.toList
  match name, arguments with
  | "len", [] => give (.int cs.length)
  | "bytes", [] => give (.int s.utf8ByteSize)
  | "is_empty", [] => give (.bool cs.isEmpty)
  | "to_upper", [] => giveText (Text.toUpper cs)
  | "to_lower", [] => giveText (Text.toLower cs)
  | "to_chars", [] => give (.list (cs.map .char))
  | "chars", [] => give (.list (cs.map .char))
  | "chars", [.int start, .int count] => give (.list ((subText cs start count).map .char))
  | "chars", [.range first last inclusive] =>
    let (start, count) := rangeBounds first last inclusive
    give (.list ((subText cs start count).map .char))
  | "contains", [v] => (piece? v).bind fun p => give (.bool (find? p cs 0).isSome)
  | "starts_with", [.text p] => give (.bool (p.toList.isPrefixOf cs))
  | "ends_with", [.text p] => give (.bool (p.toList.isSuffixOf cs))
  | "index_of", [v] =>
    (piece? v).bind fun p => give (match find? p cs 0 with
      | some n => .int n
      | none => .int (-1))
  | "index_of", [v, .int start] => (piece? v).bind fun p => give (indexOf cs p start)
  | "sub_string", [.int start] => giveText (subText cs start cs.length)
  | "sub_string", [.int start, .int count] => giveText (subText cs start count)
  | "sub_string", [.range first last inclusive] =>
    let (start, count) := rangeBounds first last inclusive
    giveText (subText cs start count)
  | "split", [] => give (pieces (Text.words cs))
  | "split", [.int at_] =>
    let n := beginning cs.length at_
    give (pieces [cs.take n, cs.drop n])
  | "split", [v] => (piece? v).bind fun p => give (pieces (TextOperation.split p cs))
  | "split", [v, .int n] => (piece? v).bind fun p => give (pieces (splitAtMost p n cs))
  | "split_rev", [v] => (piece? v).bind fun p => give (pieces (TextOperation.split p cs).reverse)
  | "split_rev", [v, .int n] =>
    (piece? v).bind fun p => give (pieces (splitAtMostFromEnd p n cs))
  | "min", [.text t] => give (.text (if s ≤ t then s else t))
  | "max", [.text t] => give (.text (if t ≤ s then s else t))
  | "get", [.int index] =>
    give (match (place? cs.length index).bind (cs[·]?) with
      | some c => .char c
      | none => .unit)
  | _, _ => none

/-- Functions that change a text. -/
def editText (name : String) (s : String) (arguments : List Value) : Result :=
  let cs := s.toList
  match name, arguments with
  | "make_upper", [] => changeText (Text.toUpper cs)
  | "make_lower", [] => changeText (Text.toLower cs)
  | "trim", [] => changeText (Text.trim cs)
  | "clear", [] => changeText []
  | "pop", [] =>
    match cs.getLast? with
    | some c => changeText cs.dropLast (.char c)
    | none => give .unit
  | "pop", [.int n] =>
    let kept := cs.length - n.toNat
    if n ≤ 0 then give (.text "")
    else changeText (cs.take kept) (.text (String.ofList (cs.drop kept)))
  | "truncate", [.int n] => changeText (cs.take n.toNat)
  | "append", [v] => change (.text (s ++ v.shown))
  | "crop", [.int start] => changeText (subText cs start cs.length)
  | "crop", [.int start, .int count] => changeText (subText cs start count)
  | "crop", [.range first last inclusive] =>
    let (start, count) := rangeBounds first last inclusive
    changeText (subText cs start count)
  | "replace", [old, new] =>
    match piece? old, piece? new with
    | some old, some new => changeText (TextOperation.replace old new cs)
    | _, _ => none
  | "remove", [v] => (piece? v).bind fun p => changeText (TextOperation.replace p [] cs)
  | "pad", [.int n, v] => (piece? v).bind fun p => changeText (padded cs n p)
  | "set", [.int index, .char c] =>
    match place? cs.length index with
    | some n => changeText (cs.set n c)
    | none => give .unit
  | _, _ => none

def ofText (name : String) (s : String) (arguments : List Value) : Result :=
  (askText name s arguments).orElse fun _ => editText name s arguments

/-- Functions on a character. -/
def ofChar (name : String) (c : Char) (arguments : List Value) : Result :=
  match name, arguments with
  | "to_upper", [] => give (.char (changeCase Text.toUpper c))
  | "to_lower", [] => give (.char (changeCase Text.toLower c))
  | "make_upper", [] => change (.char (changeCase Text.toUpper c))
  | "make_lower", [] => change (.char (changeCase Text.toLower c))
  | "to_int", [] => give (.int c.toNat)
  | "min", [.char d] => give (.char (if c ≤ d then c else d))
  | "max", [.char d] => give (.char (if d ≤ c then c else d))
  | _, _ => none

end PlaceholderScripts.Script.Builtin
