import PlaceholderScripts.Yaml.Token.Scalar

/-!
# From text to tokens

One pass over the document. Where a token begins that may turn out to be a key, the place is
remembered; the colon that makes it one lets the tokens that announce it be inserted there. A place
is forgotten when its line ends, and it is an error to forget one that the indentation needs.
-/

namespace PlaceholderScripts.Yaml

/-- A place where a key may have begun. -/
structure KeyPlace where
  /-- Whether the indentation leaves no other reading. -/
  required : Bool
  /-- The number of tokens before it. -/
  number : Nat
  mark : Mark

structure Scan where
  cursor : Cursor
  /-- The tokens so far, the last one first. -/
  tokens : List Token := []
  count : Nat := 0
  /-- The column of the innermost block, none outside of blocks. -/
  indent : Option Nat := none
  /-- The columns of the blocks around it. -/
  outer : List (Option Nat) := []
  keyAllowed : Bool := true
  /-- The place of a key in the innermost collection. -/
  place : Option KeyPlace := none
  /-- The places of the collections around it, one for each open bracket. -/
  outerPlaces : List (Option KeyPlace) := []
  finished : Bool := false

namespace Scan

def inFlow (s : Scan) : Bool := !s.outerPlaces.isEmpty

def mark (s : Scan) : Mark := s.cursor.mark

def push (s : Scan) (kind : TokenKind) (start stop : Mark) : Scan :=
  { s with tokens := ⟨kind, start, stop⟩ :: s.tokens, count := s.count + 1 }

/-- Puts a token behind the first `number` ones. -/
def insertAt (s : Scan) (number : Nat) (kind : TokenKind) (mark : Mark) : Scan :=
  let later := s.tokens.take (s.count - number)
  { s with
    tokens := later ++ ⟨kind, mark, mark⟩ :: s.tokens.drop (s.count - number)
    count := s.count + 1 }

/-- Opens a block at a column deeper than the innermost one. -/
def openBlock (s : Scan) (column : Nat) (number : Nat) (kind : TokenKind) (mark : Mark) : Scan :=
  if s.inFlow || s.indent.any (column ≤ ·) then s
  else { s.insertAt number kind mark with indent := some column, outer := s.indent :: s.outer }

/-- Closes the blocks deeper than a column, or all of them. -/
def closeBlocks (s : Scan) (column : Option Nat) : Scan :=
  if s.inFlow then s else go s s.outer
where
  go (s : Scan) : List (Option Nat) → Scan
    | [] => s
    | next :: rest =>
      if s.indent.any fun n => column.all (· < n) then
        go { s.push .blockEnd s.mark s.mark with indent := next, outer := rest } rest
      else s

def fail {α : Type} (problem : String) (mark : Mark) (context : Option (String × Mark) := none) :
    Except SyntaxError α :=
  .error ⟨problem, mark, context⟩

/-- Forgets the place of a key in the innermost collection. -/
def dropPlace (s : Scan) : Except SyntaxError Scan :=
  match s.place with
  | some p =>
    if p.required then
      fail "could not find expected ':'" s.mark (some ("while scanning a simple key", p.mark))
    else .ok { s with place := none }
  | none => .ok s

/-- Remembers that a key may begin here. -/
def savePlace (s : Scan) : Except SyntaxError Scan :=
  if s.keyAllowed then do
    let required := !s.inFlow && s.indent == some s.mark.column
    let s ← s.dropPlace
    return { s with place := some ⟨required, s.count, s.mark⟩ }
  else .ok s

def isStale (s : Scan) (p : KeyPlace) : Bool :=
  p.mark.line < s.mark.line || p.mark.index + 1024 < s.mark.index

/-- Forgets the places whose line has ended. -/
def dropStale (s : Scan) : Except SyntaxError Scan := do
  let check (place : Option KeyPlace) : Except SyntaxError (Option KeyPlace) :=
    match place with
    | some p =>
      if s.isStale p then
        if p.required then
          fail "could not find expected ':'" s.mark (some ("while scanning a simple key", p.mark))
        else .ok none
      else .ok place
    | none => .ok none
  return { s with place := ← check s.place, outerPlaces := ← s.outerPlaces.mapM check }

/-- Goes on to the next character that is neither blank nor in a comment. -/
def skipSpace (s : Scan) : Nat → Scan
  | 0 => s
  | fuel + 1 =>
    let c := s.cursor
    let c := if c.mark.index == 0 && c.at_ '\ufeff' then c.skip else c
    let (_, c) := c.readWhile fun x =>
      x = ' ' || (x = '\t' && (s.inFlow || !s.keyAllowed))
    let (_, c) := if c.at_ '#' then c.readWhile (!isBreak ·) else ([], c)
    if c.atBreak then
      skipSpace { s with cursor := c.skipBreak, keyAllowed := s.keyAllowed || !s.inFlow } fuel
    else { s with cursor := c }

/-- A token of `n` characters. -/
def takeIndicator (s : Scan) (n : Nat) (kind : TokenKind) : Scan :=
  let stop := (s.cursor.skip n).mark
  { s.push kind s.mark stop with cursor := s.cursor.skip n }

def isNameChar (c : Char) : Bool :=
  c.isAlphanum || c = '_' || c = '-'

/-- Reads the name behind `&` or `*`. -/
def readName (c : Cursor) (what : String) : Except SyntaxError (String × Cursor) :=
  let (name, next) := c.skip.readWhile isNameChar
  let ends := next.atBlankEnd || next.peek.any ("?:,]\x7d%@".toList.contains ·) || next.at_ '\x60'
  if name.isEmpty || !ends then
    fail "did not find expected alphabetic or numeric character" next.mark
      (some ("while scanning an " ++ what, c.mark))
  else .ok (String.ofList name, next)

/-- The characters of a tag; inside angle brackets there are three more. -/
def isTagChar (verbatim : Bool) (c : Char) : Bool :=
  isNameChar c || ";/?:@&=+$.%!~*'()".toList.contains c ||
    (verbatim && (c = ',' || c = '[' || c = ']'))

/-- Decodes the bytes written as `%` and two hexadecimal digits. -/
def decodeBytes (cs : List Char) : Nat → Option (List UInt8)
  | 0 => some []
  | fuel + 1 =>
    match cs with
    | [] => some []
    | '%' :: a :: b :: rest => do
      let high ← hexValue? a
      let low ← hexValue? b
      return UInt8.ofNat (16 * high + low) :: (← decodeBytes rest fuel)
    | '%' :: _ => none
    | c :: rest => do return (String.singleton c).toUTF8.toList ++ (← decodeBytes rest fuel)

/-- Reads the text of a tag or of a tag directive's expansion. -/
def readTagText (c : Cursor) (verbatim : Bool) (start : Mark) :
    Except SyntaxError (String × Cursor) :=
  let (raw, next) := c.readWhile (isTagChar verbatim)
  match (decodeBytes raw raw.length).bind fun bs => String.fromUTF8? ⟨bs.toArray⟩ with
  | some text => .ok (text, next)
  | none => fail "found an incorrect UTF-8 sequence in a tag" c.mark
      (some ("while parsing a tag", start))

/-- Reads a tag: verbatim in angle brackets, or a handle and a suffix. -/
def readTag (s : Scan) : Except SyntaxError (TokenKind × Cursor) := do
  let start := s.mark
  let context := some ("while scanning a tag", start)
  let (kind, c) ← do
    if s.cursor.peekAt 1 = some '<' then
      let (text, c) ← readTagText (s.cursor.skip 2) true start
      if !c.at_ '>' then fail "did not find the expected '>'" c.mark context
      else pure (TokenKind.tag "" text, c.skip)
    else
      let (word, afterWord) := s.cursor.skip.readWhile isNameChar
      if afterWord.at_ '!' then
        let (text, c) ← readTagText afterWord.skip false start
        if text.isEmpty then fail "did not find expected tag URI" c.mark context
        else pure (.tag ("!" ++ String.ofList word ++ "!") text, c)
      else
        let (text, c) ← readTagText afterWord false start
        let suffix := String.ofList word ++ text
        pure (if suffix.isEmpty then .tag "" "!" else .tag "!" suffix, c)
  if c.atBlankEnd || (s.inFlow && c.at_ ',') then return (kind, c)
  else fail "did not find expected whitespace or line break" c.mark context

/-- Reads a decimal number of a version directive. -/
def readVersionNumber (c : Cursor) (context : Option (String × Mark)) :
    Except SyntaxError (Nat × Cursor) :=
  let (ds, next) := c.readWhile Char.isDigit
  if ds.isEmpty || ds.length > 9 then
    fail "did not find expected version number" next.mark context
  else .ok (ds.foldl (fun n d => 10 * n + (d.toNat - '0'.toNat)) 0, next)

/-- Reads a directive line. -/
def readDirective (s : Scan) : Except SyntaxError (TokenKind × Cursor) := do
  let start := s.mark
  let context := some ("while scanning a directive", start)
  let (name, c) := s.cursor.skip.readWhile isNameChar
  let skipBlanks (c : Cursor) : Cursor := (c.readWhile isSpaceOrTab).2
  let (kind, c) ← do
    if name == "YAML".toList then
      let (major, c) ← readVersionNumber (skipBlanks c) context
      if !c.at_ '.' then fail "did not find expected digit or '.' character" c.mark context
      else
        let (minor, c) ← readVersionNumber c.skip context
        pure (TokenKind.version major minor, c)
    else if name == "TAG".toList then
      let c := skipBlanks c
      if !c.at_ '!' then fail "did not find expected '!'" c.mark context
      else
        let (word, c) := c.skip.readWhile isNameChar
        if !word.isEmpty && !c.at_ '!' then
          fail "did not find expected '!'" c.mark (some ("while parsing a tag directive", start))
        else
          let (handle, c) :=
            if c.at_ '!' then ("!" ++ String.ofList word ++ "!", c.skip) else ("!", c)
          if !c.atSpaceOrTab then
            fail "did not find expected whitespace" c.mark
              (some ("while scanning a %TAG directive", start))
          else
            let (expansion, c) ← readTagText (skipBlanks c) true start
            if expansion.isEmpty || !c.atBlankEnd then
              fail "did not find expected whitespace or line break" c.mark
                (some ("while scanning a %TAG directive", start))
            else pure (.tagDirective handle expansion, c)
    else fail "found unknown directive name" c.mark context
  let c := skipBlanks c
  let (_, c) := if c.at_ '#' then c.readWhile (!isBreak ·) else ([], c)
  if c.atEnd || c.atBreak then return (kind, c.skipBreak)
  else fail "did not find expected comment or line break" c.mark context

/-- A bracket that opens a collection, which may itself be a key. -/
def openBracket (s : Scan) (kind : TokenKind) : Except SyntaxError Scan := do
  let s ← s.savePlace
  return { s.takeIndicator 1 kind with
    keyAllowed := true, place := none, outerPlaces := s.place :: s.outerPlaces }

/-- A bracket that closes a collection. -/
def closeBracket (s : Scan) (kind : TokenKind) : Except SyntaxError Scan := do
  let s ← s.dropPlace
  let s := s.takeIndicator 1 kind
  match s.outerPlaces with
  | p :: rest => return { s with keyAllowed := false, place := p, outerPlaces := rest }
  | [] => return { s with keyAllowed := false }

/-- The comma between the entries of a bracketed collection. -/
def takeComma (s : Scan) : Except SyntaxError Scan := do
  let s ← s.dropPlace
  return { s with keyAllowed := true }.takeIndicator 1 .flowEntry

/-- The dash before an item. -/
def takeDash (s : Scan) : Except SyntaxError Scan := do
  if !s.inFlow && !s.keyAllowed then
    fail "block sequence entries are not allowed in this context" s.mark
  else
    let s := s.openBlock s.mark.column s.count .blockSequence s.mark
    let s ← s.dropPlace
    return { s with keyAllowed := true }.takeIndicator 1 .blockEntry

/-- The question mark before a key. -/
def takeKey (s : Scan) : Except SyntaxError Scan := do
  if !s.inFlow && !s.keyAllowed then
    fail "mapping keys are not allowed in this context" s.mark
  else
    let s := s.openBlock s.mark.column s.count .blockMapping s.mark
    let s ← s.dropPlace
    return { s with keyAllowed := !s.inFlow }.takeIndicator 1 .key

/-- The colon before a value, which tells that a key came before it. -/
def takeColon (s : Scan) : Except SyntaxError Scan := do
  match s.place with
  | some p =>
    let s := s.insertAt p.number .key p.mark
    let s := s.openBlock p.mark.column p.number .blockMapping p.mark
    return { s with place := none, keyAllowed := false }.takeIndicator 1 .value
  | none =>
    if !s.inFlow && !s.keyAllowed then
      fail "mapping values are not allowed in this context" s.mark
    else
      let s := s.openBlock s.mark.column s.count .blockMapping s.mark
      return { s with keyAllowed := !s.inFlow }.takeIndicator 1 .value

/-- A token that may be a key and is read as a whole. -/
def takeNode (s : Scan) (kind : TokenKind) (stop : Mark) (c : Cursor) (start : Mark) : Scan :=
  { s.push kind start stop with cursor := c, keyAllowed := false }

def takeAnchor (s : Scan) (make : String → TokenKind) (what : String) : Except SyntaxError Scan := do
  let start := s.mark
  let s ← s.savePlace
  let (name, c) ← readName s.cursor what
  return s.takeNode (make name) c.mark c start

def takeTag (s : Scan) : Except SyntaxError Scan := do
  let start := s.mark
  let s ← s.savePlace
  let (kind, c) ← s.readTag
  return s.takeNode kind c.mark c start

def takeQuoted (s : Scan) (double : Bool) : Except SyntaxError Scan := do
  let start := s.mark
  let s ← s.savePlace
  let (text, c) ← quotedScalar double start s.cursor.skip [] (s.cursor.rest.length + 1)
  return s.takeNode (.scalar (String.ofList text) (if double then .double else .single))
    c.mark c start

def takePlain (s : Scan) : Except SyntaxError Scan := do
  let start := s.mark
  let s ← s.savePlace
  let least := match s.indent with
    | some n => n + 1
    | none => 0
  let (t, c) ← plainScalar s.inFlow least start s.cursor ⟨[], start, false⟩ {}
    (s.cursor.rest.length + 1)
  let s := s.takeNode (.scalar (String.ofList t.text) .plain) t.stop c start
  return { s with keyAllowed := t.lineEnded }

def takeBlock (s : Scan) (folded : Bool) : Except SyntaxError Scan := do
  let start := s.mark
  let s ← s.dropPlace
  let (text, stop, c) ← blockScalar folded s.indent start s.cursor.skip
  let s := s.takeNode (.scalar (String.ofList text) (if folded then .folded else .literal)) stop c
    start
  return { s with keyAllowed := true }

/-- The line that bounds a document. -/
def takeDocumentMark (s : Scan) : Except SyntaxError Scan := do
  let kind := if s.cursor.at_ '-' then TokenKind.documentStart else .documentEnd
  let s := s.closeBlocks none
  let s ← s.dropPlace
  return { s with keyAllowed := false }.takeIndicator 3 kind

def takeDirective (s : Scan) : Except SyntaxError Scan := do
  let s := s.closeBlocks none
  let s ← s.dropPlace
  let start := s.mark
  let (kind, c) ← s.readDirective
  return { s.push kind start c.mark with cursor := c, keyAllowed := false }

/-- The end of the text closes every block. -/
def finish (s : Scan) : Except SyntaxError Scan := do
  let m := s.mark
  let m := if m.column == 0 then m else ⟨m.index, m.line + 1, 0⟩
  let s := { s with cursor := { s.cursor with mark := m } }.closeBlocks none
  let s ← s.dropPlace
  return { s with finished := true, keyAllowed := false }

/-- Whether a plain scalar may begin with the next character. -/
def startsPlain (s : Scan) : Bool :=
  let c := s.cursor
  match c.peek with
  | none => false
  | some x =>
    let special := isSpaceOrTab x || isBreak x ||
      "-?:,[]\x7b\x7d#&*!|>'\"%@".toList.contains x || x = '\x60'
    !special || (x = '-' && !(c.peekAt 1).all isSpaceOrTab) ||
      (!s.inFlow && (x = '?' || x = ':') && !isBlankEnd (c.peekAt 1))

/-- Reads the token that begins with the character `x`. -/
def take (s : Scan) (x : Char) : Except SyntaxError Scan :=
  let c := s.cursor
  let spaced := isBlankEnd (c.peekAt 1)
  if c.mark.column == 0 && x = '%' then s.takeDirective
  else if c.atDocumentMark then s.takeDocumentMark
  else if x = '[' then s.openBracket .flowSequence
  else if x = '\x7b' then s.openBracket .flowMapping
  else if x = ']' then s.closeBracket .flowSequenceEnd
  else if x = '\x7d' then s.closeBracket .flowMappingEnd
  else if x = ',' then s.takeComma
  else if x = '-' && spaced then s.takeDash
  else if x = '?' && (s.inFlow || spaced) then s.takeKey
  else if x = ':' && (s.inFlow || spaced) then s.takeColon
  else if x = '*' then s.takeAnchor .alias "alias"
  else if x = '&' then s.takeAnchor .anchor "anchor"
  else if x = '!' then s.takeTag
  else if x = '|' && !s.inFlow then s.takeBlock false
  else if x = '>' && !s.inFlow then s.takeBlock true
  else if x = '\'' then s.takeQuoted false
  else if x = '"' then s.takeQuoted true
  else if s.startsPlain then s.takePlain
  else
    fail "found character that cannot start any token" s.mark
      (some ("while scanning for the next token", s.mark))

/-- Reads the next token, or ends the document. -/
def step (s : Scan) : Except SyntaxError Scan := do
  let s := s.skipSpace (s.cursor.rest.length + 1)
  let s ← s.dropStale
  let s := s.closeBlocks (some s.mark.column)
  match s.cursor.peek with
  | none => s.finish
  | some x => s.take x

/-- Reads at most `fuel` tokens; each takes at least one character. -/
def steps (s : Scan) : Nat → Except SyntaxError Scan
  | 0 => .ok s
  | fuel + 1 => if s.finished then .ok s else do (← s.step).steps fuel

end Scan

/-- The characters that a document may hold. -/
def isDocumentChar (c : Char) : Bool :=
  let n := c.toNat
  n == 0x09 || n == 0x0A || n == 0x0D || (0x20 ≤ n && n ≤ 0x7E) || n == 0x85 ||
    (0xA0 ≤ n && n ≤ 0xFFFD) || 0x10000 ≤ n

/-- The tokens of a document and the place where it ends. -/
def tokens (text : String) : Except SyntaxError (List Token × Mark) := do
  let cs := text.toList
  let cs := if cs.head? = some '\ufeff' then cs.drop 1 else cs
  if !cs.all isDocumentChar then
    throw ⟨"control characters are not allowed", {}, none⟩
  let s ← Scan.steps { cursor := ⟨cs, {}⟩ } (cs.length + 2)
  return (s.tokens.reverse, s.mark)

end PlaceholderScripts.Yaml
