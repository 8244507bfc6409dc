import PlaceholderScripts.Datum
import PlaceholderScripts.Number.Shortest
import PlaceholderScripts.Text.Quoted
import PlaceholderScripts.Yaml.Node
import PlaceholderScripts.Yaml.Scalar

/-!
# Reading documents as values

A document is read as a value that is expected at its place: a map of stored values, or a map of
records. Where the document holds something else, the error names the place in the tree, what was
found and what was expected, and the place in the text.
-/

namespace PlaceholderScripts.Yaml

inductive Step where
  | key (name : String)
  | index (i : Nat)
  /-- The value of a key that is no scalar. -/
  | unknown

/-- The way to a node, the last step first. -/
abbrev Route := List Step

namespace Route

def text : Route → String
  | [] => "."
  | .index i :: rest => text rest ++ "[" ++ toString i ++ "]"
  | .key name :: rest => base rest ++ name
  | .unknown :: rest => base rest ++ "?"
where
  base : Route → String
    | [] => ""
    | .index i :: rest => text (.index i :: rest) ++ "."
    | .key name :: rest => base rest ++ name ++ "."
    | .unknown :: rest => base rest ++ "?."

end Route

inductive Mismatch where
  | wrongType (found expected : String)
  | wrongValue (found expected : String)
  | missingField (name : String)
  | duplicateField (name : String)
  deriving DecidableEq, Repr

def Mismatch.message : Mismatch → String
  | .wrongType found expected => "invalid type: " ++ found ++ ", expected " ++ expected
  | .wrongValue found expected => "invalid value: " ++ found ++ ", expected " ++ expected
  | .missingField name => "missing field `" ++ name ++ "`"
  | .duplicateField name => "duplicate field `" ++ name ++ "`"

inductive ReadError where
  | malformed (error : SyntaxError)
  | mismatch (error : Mismatch) (route : String) (mark : Mark)
  | tooDeep (mark : Mark)
  | manyDocuments
  deriving DecidableEq, Repr

def ReadError.message : ReadError → String
  | .malformed e => e.message
  | .mismatch e route mark =>
    (if route = "." then "" else route ++ ": ") ++ e.message ++ mark.suffix
  | .tooDeep mark => "recursion limit exceeded" ++ mark.suffix
  | .manyDocuments =>
    "deserializing from YAML containing more than one document is not supported"

/-- How a double is shown where it was not expected. -/
def foundLayout : Shortest.Layout := ⟨fun _ => true, true, true, "NaN", "inf"⟩

def foundText (text : String) : String := "string " ++ Text.quoted text

def foundPlain (text : String) : Plain → String
  | .null => "unit value"
  | .bool b => "boolean `" ++ toString b ++ "`"
  | .int i => "integer `" ++ toString i ++ "`"
  | .wideInt i => "integer `" ++ toString i ++ "` as " ++ (if i < 0 then "i128" else "u128")
  | .float x => "floating point `" ++ String.ofList (foundLayout.text x) ++ "`"
  | .text => foundText text

namespace CoreTag

def null : String := "tag:yaml.org,2002:null"

def bool : String := "tag:yaml.org,2002:bool"

def int : String := "tag:yaml.org,2002:int"

def float : String := "tag:yaml.org,2002:float"

end CoreTag

/-- The meaning of a scalar with its style and tag. -/
def scalarValue (text : String) (style : Style) (tag : Option String) : Except Mismatch Plain :=
  let wrong (expected : String) : Except Mismatch Plain :=
    .error (.wrongValue (foundText text) expected)
  match tag with
  | none => .ok (if style = .plain then Plain.ofString text else .text)
  | some tag =>
    if tag = CoreTag.bool then (Plain.bool? text).elim (wrong "a boolean") (.ok ∘ .bool)
    else if tag = CoreTag.int then
      match (if text.isEmpty then none else Plain.int? text.toList) with
      | some i => .ok (if -(2 ^ 63) ≤ i && i < 2 ^ 64 then .int i else .wideInt i)
      | none => wrong "an integer"
    else if tag = CoreTag.float then (Plain.float? text.toList).elim (wrong "a float") (.ok ∘ .float)
    else if tag = CoreTag.null then if Plain.isNull text then .ok .null else wrong "null"
    else .ok .text

/-- A tag that belongs to the document itself, which no reader here knows. -/
def isLocalTag (tag : Option String) : Bool := tag.any fun t => t.toList.head? == some '!'

/-- What is found at a node, where something else was expected. -/
def found (expected : String) : Node → Mismatch
  | .scalar text style tag _ =>
    match scalarValue text style tag with
    | .ok p => .wrongType (foundPlain text p) expected
    | .error e => e
  | .sequence _ _ _ => .wrongType "sequence" expected
  | .mapping _ _ _ => .wrongType "map" expected
  | .alias _ _ | .nothing _ => .wrongType "unit value" expected

def mismatchAt {α : Type} (route : Route) (node : Node) (e : Mismatch) : Except ReadError α :=
  .error (.mismatch e route.text node.mark)

namespace Document

/-- The node that an alias refers to; any other node is itself. -/
def follow (doc : Document) : Node → Node
  | .alias id mark => (doc.anchored.lookup id).getD (.nothing mark)
  | node => node

/-- A scalar as it is spelled. -/
def readText (doc : Document) (expected : String) (route : Route) (node : Node) :
    Except ReadError String :=
  match doc.follow node with
  | .scalar text _ _ _ => .ok text
  | node => mismatchAt route node (found expected node)

/-- The step to the value of a key. -/
def stepTo : Node → Step
  | .scalar text _ _ _ => .key text
  | _ => .unknown

/-- The entries of a mapping, every value read by `read`; a key that occurs again replaces the
earlier one. -/
def readEntries {α : Type} (doc : Document) (expected : String)
    (read : Route → Node → Except ReadError α) (route : Route) (pairs : List (Node × Node)) :
    Except ReadError (List (String × α)) := do
  let entries ← pairs.mapM fun pair => do
    let key ← doc.readText expected route pair.1
    let value ← read (stepTo pair.1 :: route) pair.2
    return (key, value)
  return Entries.ofList entries

/-- A stored value, with at most `depth` collections inside each other. -/
def readDatum (doc : Document) : Nat → Route → Node → Except ReadError Datum
  | depth, route, node =>
    let node := doc.follow node
    let any := "any valid JSON value"
    match node with
    | .scalar text style tag _ =>
      if isLocalTag tag then mismatchAt route node (.wrongType "enum" any) else
      match scalarValue text style tag with
      | .error e => mismatchAt route node e
      | .ok .null => .ok .null
      | .ok (.bool b) => .ok (.bool b)
      | .ok (.int i) => .ok (.int i)
      | .ok (.wideInt i) => mismatchAt route node (.wrongType (foundPlain text (.wideInt i)) any)
      | .ok (.float x) => .ok (if x.isFinite then .float x else .null)
      | .ok .text => .ok (.text text)
    | .sequence items tag mark =>
      if isLocalTag tag then mismatchAt route node (.wrongType "enum" any) else
      match depth with
      | 0 => .error (.tooDeep mark)
      | depth + 1 =>
        .list <$> items.zipIdx.mapM fun p => doc.readDatum depth (.index p.2 :: route) p.1
    | .mapping pairs tag mark =>
      if isLocalTag tag then mismatchAt route node (.wrongType "enum" any) else
      match depth with
      | 0 => .error (.tooDeep mark)
      | depth + 1 =>
        .map <$> doc.readEntries "a string key" (doc.readDatum depth) route pairs
    | .alias _ _ | .nothing _ => .ok .null

/-- The pairs of the mapping at a node. Without any text, and where a scalar is left out, there is
an empty mapping. -/
def readMapping (doc : Document) (expected : String) (route : Route) (node : Node) :
    Except ReadError (Node × List (Node × Node)) :=
  match doc.follow node with
  | .mapping pairs tag mark => .ok (.mapping pairs tag mark, pairs)
  | .nothing mark => .ok (.nothing mark, [])
  | .scalar text style tag mark =>
    if text.isEmpty then .ok (.scalar text style tag mark, [])
    else
      let node := Node.scalar text style tag mark
      mismatchAt route node (found expected node)
  | node => mismatchAt route node (found expected node)

/-- How many collections may stand inside each other. -/
def depthLimit : Nat := 128

end Document

/-- Reads a text as a map whose values are read by `read`. -/
def readMap {α : Type} (read : Document → Route → Node → Except ReadError α) (text : String) :
    Except ReadError (Dict α) :=
  match Document.parse text with
  | .error e => .error (.malformed e)
  | .ok doc => do
    let (_, pairs) ← doc.readMapping "a map" [] doc.root
    let entries ← pairs.mapM fun pair => do
      let key ← doc.readText "a string" [] pair.1
      let value ← read doc [Document.stepTo pair.1] pair.2
      return (key, value)
    if doc.more then .error .manyDocuments else return Dict.ofList entries

/-- Reads a text as a map of stored values. -/
def readData (text : String) : Except ReadError (Dict Datum) :=
  readMap (fun doc route node => doc.readDatum (Document.depthLimit - 1) route node) text

end PlaceholderScripts.Yaml
