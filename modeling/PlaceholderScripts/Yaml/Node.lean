import PlaceholderScripts.Yaml.Token.Scan

/-!
# The tree of a document

Tokens are put together to a tree of scalars, sequences and mappings. A node that is left out is an
empty plain scalar. An alias stays a reference, by number, to the node that carries its anchor, so that
a node may even refer to itself; only what reads the tree bounds how far it follows.
-/

namespace PlaceholderScripts.Yaml

/-- A node of a document, with its tag and the place where it begins. -/
inductive Node where
  | scalar (text : String) (style : Style) (tag : Option String) (mark : Mark)
  | sequence (items : List Node) (tag : Option String) (mark : Mark)
  | mapping (pairs : List (Node × Node)) (tag : Option String) (mark : Mark)
  | alias (anchor : Nat) (mark : Mark)
  /-- A text without any node. -/
  | nothing (mark : Mark)

def Node.mark : Node → Mark
  | .scalar _ _ _ m | .sequence _ _ m | .mapping _ _ m | .alias _ m | .nothing m => m

structure Reading where
  tokens : List Token
  /-- The end of the text. -/
  ending : Mark
  /-- What the handles of tags stand for. -/
  handles : List (String × String) := []
  /-- The number of the node that each anchor named last. -/
  anchors : List (String × Nat) := []
  /-- The nodes with anchors that have been read, the last one first. -/
  anchored : List (Nat × Node) := []

abbrev ReadM := StateT Reading (Except SyntaxError)

namespace ReadM

def fail {α : Type} (problem : String) (mark : Mark) (context : Option (String × Mark) := none) :
    ReadM α :=
  throw ⟨problem, mark, context⟩

def peek : ReadM (Option Token) := do return (← get).tokens.head?

def peekKind : ReadM (Option TokenKind) := do return (← peek).map Token.kind

def skip : ReadM Unit := modify fun r => { r with tokens := r.tokens.drop 1 }

def here : ReadM Mark := do return ((← peek).map Token.start).getD (← get).ending

def absent (mark : Mark) : Node := .scalar "" .plain none mark

/-- The tag that a handle and a suffix stand for. -/
def resolveTag (handle suffix : String) (mark : Mark) : ReadM String := do
  if handle.isEmpty then return suffix
  match (← get).handles.lookup handle with
  | some expansion => return expansion ++ suffix
  | none => fail "found undefined tag handle" mark (some ("while parsing a node", mark))

/-- An anchor and a tag, in either order and each at most once. -/
def properties (anchor tag : Option String) : Nat → ReadM (Option String × Option String)
  | 0 => return (anchor, tag)
  | fuel + 1 => do
    match ← peek with
    | some ⟨.anchor name, _, _⟩ =>
      if anchor.isSome then return (anchor, tag)
      skip
      properties (some name) tag fuel
    | some ⟨.tag handle suffix, start, _⟩ =>
      if tag.isSome then return (anchor, tag)
      let text ← resolveTag handle suffix start
      skip
      properties anchor (some text) fuel
    | _ => return (anchor, tag)

/-- Gives a number to an anchor and makes it the latest of its name. -/
def nameAnchor (anchor : Option String) : ReadM (Option Nat) := do
  match anchor with
  | none => return none
  | some name =>
    let r ← get
    let id := (r.anchors.map Prod.fst).eraseDups.length
    set { r with anchors := (name, id) :: r.anchors }
    return some id

/-- Keeps a node under the number of its anchor. -/
def keep (id : Option Nat) (node : Node) : ReadM Node := do
  if let some id := id then modify fun r => { r with anchored := (id, node) :: r.anchored }
  return node

mutual

/-- Reads a node. In a block it may be a block collection, and as the value of a key also a sequence
that is not indented. -/
def node (block indentless : Bool) : Nat → ReadM Node
  | 0 => do fail "did not find expected node content" (← here)
  | fuel + 1 => do
    let start ← here
    match ← peekKind with
    | some (.alias name) =>
      match (← get).anchors.lookup name with
      | some id => do
        skip
        return .alias id start
      | none => fail "unknown anchor" start
    | _ =>
      let (anchor, tag) ← properties none none 2
      match ← peekKind with
      | some .blockEntry =>
        if indentless then
          let id ← nameAnchor anchor
          let items ← indentlessItems fuel
          keep id (.sequence items tag start)
        else emptyNode block anchor tag start
      | some (.scalar text style) =>
        let id ← nameAnchor anchor
        skip
        keep id (.scalar text style tag start)
      | some .flowSequence =>
        let id ← nameAnchor anchor
        skip
        let items ← flowItems start true fuel
        keep id (.sequence items tag start)
      | some .flowMapping =>
        let id ← nameAnchor anchor
        skip
        let pairs ← flowPairs start true fuel
        keep id (.mapping pairs tag start)
      | some .blockSequence =>
        if block then
          let id ← nameAnchor anchor
          skip
          let items ← blockItems start fuel
          keep id (.sequence items tag start)
        else emptyNode block anchor tag start
      | some .blockMapping =>
        if block then
          let id ← nameAnchor anchor
          skip
          let pairs ← blockPairs start fuel
          keep id (.mapping pairs tag start)
        else emptyNode block anchor tag start
      | _ => emptyNode block anchor tag start

/-- A node of which there are only an anchor or a tag. -/
def emptyNode (block : Bool) (anchor tag : Option String) (start : Mark) : ReadM Node := do
  if anchor.isNone && tag.isNone then
    fail "did not find expected node content" (← here)
      (some (if block then "while parsing a block node" else "while parsing a flow node", start))
  else
    let id ← nameAnchor anchor
    keep id (.scalar "" .plain tag start)

/-- A node, unless the next token shows that it is left out. -/
def optionalNode (indentless : Bool) (mark : Mark) (stops : List TokenKind) : Nat → ReadM Node
  | 0 => return absent mark
  | fuel + 1 => do
    match ← peekKind with
    | none => return absent mark
    | some kind => if stops.contains kind then return absent mark else node true indentless fuel

/-- A node inside brackets, unless the next token shows that it is left out. -/
def optionalFlowNode (stops : List TokenKind) : Nat → ReadM Node
  | 0 => do return absent (← here)
  | fuel + 1 => do
    match ← peekKind with
    | none => return absent (← here)
    | some kind => if stops.contains kind then return absent (← here) else node false false fuel

/-- The items of an indented sequence. -/
def blockItems (start : Mark) : Nat → ReadM (List Node)
  | 0 => return []
  | fuel + 1 => do
    match ← peek with
    | some ⟨.blockEntry, _, stop⟩ =>
      skip
      let item ← optionalNode false stop [.blockEntry, .blockEnd] fuel
      return item :: (← blockItems start fuel)
    | some ⟨.blockEnd, _, _⟩ => do
      skip
      return []
    | _ =>
      fail "did not find expected '-' indicator" (← here)
        (some ("while parsing a block collection", start))

/-- The items of a sequence at the column of its key. -/
def indentlessItems : Nat → ReadM (List Node)
  | 0 => return []
  | fuel + 1 => do
    match ← peek with
    | some ⟨.blockEntry, _, stop⟩ =>
      skip
      let item ← optionalNode false stop [.blockEntry, .key, .value, .blockEnd] fuel
      return item :: (← indentlessItems fuel)
    | _ => return []

/-- The pairs of a block mapping. -/
def blockPairs (start : Mark) : Nat → ReadM (List (Node × Node))
  | 0 => return []
  | fuel + 1 => do
    match ← peek with
    | some ⟨.key, _, stop⟩ =>
      skip
      let key ← optionalNode true stop [.key, .value, .blockEnd] fuel
      let value ← blockValue fuel
      return (key, value) :: (← blockPairs start fuel)
    | some ⟨.blockEnd, _, _⟩ => do
      skip
      return []
    | _ => fail "did not find expected key" (← here) (some ("while parsing a block mapping", start))

/-- The value of a pair in a block mapping. -/
def blockValue : Nat → ReadM Node
  | 0 => do return absent (← here)
  | fuel + 1 => do
    match ← peek with
    | some ⟨.value, _, stop⟩ =>
      skip
      optionalNode true stop [.key, .value, .blockEnd] fuel
    | _ => return absent (← here)

/-- The comma before every entry but the first. -/
def separator (first : Bool) (what : String) (context : String) (start : Mark) : ReadM Unit := do
  if first then return
  match ← peekKind with
  | some .flowEntry => skip
  | _ => fail ("did not find expected ',' or '" ++ what ++ "'") (← here) (some (context, start))

/-- The items of a bracketed sequence, where a pair without brackets is a mapping of its own. -/
def flowItems (start : Mark) (first : Bool) : Nat → ReadM (List Node)
  | 0 => return []
  | fuel + 1 => do
    match ← peekKind with
    | some .flowSequenceEnd => do
      skip
      return []
    | _ =>
      separator first "]" "while parsing a flow sequence" start
      let place ← here
      match ← peekKind with
      | some .flowSequenceEnd => do
        skip
        return []
      | some .key =>
        skip
        let key ← flowPairKey fuel
        let value ← flowValue [.flowEntry, .flowSequenceEnd] fuel
        return .mapping [(key, value)] none place :: (← flowItems start false fuel)
      | _ =>
        let item ← node false false fuel
        return item :: (← flowItems start false fuel)

/-- The key of a pair inside a bracketed sequence. -/
def flowPairKey : Nat → ReadM Node
  | 0 => do return absent (← here)
  | fuel + 1 => do
    match ← peek with
    | some ⟨kind, _, stop⟩ =>
      if [.value, .flowEntry, .flowSequenceEnd].contains kind then
        skip
        return absent stop
      else node false false fuel
    | none => return absent (← here)

/-- The value of a pair inside brackets. -/
def flowValue (stops : List TokenKind) : Nat → ReadM Node
  | 0 => do return absent (← here)
  | fuel + 1 => do
    match ← peekKind with
    | some .value =>
      skip
      optionalFlowNode stops fuel
    | _ => return absent (← here)

/-- The pairs of a bracketed mapping. -/
def flowPairs (start : Mark) (first : Bool) : Nat → ReadM (List (Node × Node))
  | 0 => return []
  | fuel + 1 => do
    match ← peekKind with
    | some .flowMappingEnd => do
      skip
      return []
    | _ =>
      separator first "\x7d" "while parsing a flow mapping" start
      match ← peekKind with
      | some .flowMappingEnd => do
        skip
        return []
      | some .key =>
        skip
        let key ← optionalFlowNode [.value, .flowEntry, .flowMappingEnd] fuel
        let value ← flowValue [.flowEntry, .flowMappingEnd] fuel
        return (key, value) :: (← flowPairs start false fuel)
      | _ =>
        let key ← node false false fuel
        let mark ← here
        return (key, absent mark) :: (← flowPairs start false fuel)

end

/-- Reads the directives in front of a document. -/
def directives (version : Bool) : Nat → ReadM Unit
  | 0 => return
  | fuel + 1 => do
    match ← peek with
    | some ⟨.version major minor, start, _⟩ =>
      if version then fail "found duplicate %YAML directive" start
      else if major ≠ 1 || (minor ≠ 1 && minor ≠ 2) then
        fail "found incompatible YAML document" start
      else
        skip
        directives true fuel
    | some ⟨.tagDirective handle expansion, start, _⟩ =>
      if ((← get).handles.lookup handle).isSome then
        fail "found duplicate %TAG directive" start
      else
        modify fun r => { r with handles := (handle, expansion) :: r.handles }
        skip
        directives version fuel
    | _ => return

/-- The handles that every document knows, unless it has given them a meaning of its own. -/
def defaultHandles : List (String × String) := [("!", "!"), ("!!", "tag:yaml.org,2002:")]

/-- Reads the first document of a text, of which the tokens are given. -/
def document (fuel : Nat) : ReadM Node := do
  match ← peekKind with
  | none => return .nothing (← here)
  | some kind =>
    let explicit := match kind with
      | .version _ _ | .tagDirective _ _ | .documentStart => true
      | _ => false
    if explicit then
      directives false fuel
      if (← peekKind) ≠ some .documentStart then
        fail "did not find expected <document start>" (← here)
      skip
    modify fun r => { r with handles := r.handles ++ defaultHandles }
    let empty := match ← peekKind with
      | none | some (.version _ _) | some (.tagDirective _ _) | some .documentStart
      | some .documentEnd => true
      | _ => false
    let root ← if explicit && empty then pure (absent (← here)) else node true false fuel
    if (← peekKind) = some .documentEnd then skip
    return root

/-- Skips the marks that end a document which is not there. -/
def skipDocumentEnds : Nat → ReadM Unit
  | 0 => return
  | fuel + 1 => do
    if (← peekKind) = some .documentEnd then
      skip
      skipDocumentEnds fuel

/-- Whether another document follows; anything else that follows is an error. -/
def anotherDocument (fuel : Nat) : ReadM Bool := do
  skipDocumentEnds fuel
  match ← peekKind with
  | none => return false
  | some _ =>
    modify fun r => { r with handles := [] }
    directives false fuel
    if (← peekKind) = some .documentStart then return true
    else fail "did not find expected <document start>" (← here)

end ReadM

/-- A document: its tree, the nodes that its aliases refer to, and whether it is not the only one of
its text. -/
structure Document where
  root : Node
  anchored : List (Nat × Node)
  more : Bool

/-- Reads the first document of a text. -/
def Document.parse (text : String) : Except SyntaxError Document := do
  let (tokens, ending) ← tokens text
  let fuel := 4 * tokens.length + 8
  let (root, r) ← (ReadM.document fuel).run { tokens, ending }
  let (more, _) ← (ReadM.anotherDocument fuel).run r
  return ⟨root, r.anchored, more⟩

end PlaceholderScripts.Yaml
