import PlaceholderScripts.Yaml.Token

/-!
# Reading scalars

The five written forms of a scalar. In all but the literal form a single line end inside the scalar
reads as a space, and further ones stand for themselves.
-/

namespace PlaceholderScripts.Yaml

/-- Blanks and line ends between two parts of a scalar. -/
structure Gap where
  /-- The blanks, while no line has ended. -/
  blanks : List Char := []
  /-- Whether the text goes on behind a line end. -/
  broken : Bool := false
  /-- The first line end; an escaped one leaves nothing. -/
  first : List Char := []
  /-- The further line ends. -/
  more : List Char := []

/-- What a gap contributes to the text. -/
def Gap.fold (g : Gap) : List Char :=
  if !g.broken then g.blanks
  else if g.first = ['\n'] then if g.more.isEmpty then [' '] else g.more
  else g.first ++ g.more

/-- Reads the blanks and line ends of a gap. With `least` given, a tab left of that column behind a
line end is refused. -/
def readGap (least : Option Nat) (start : Mark) (c : Cursor) (g : Gap) :
    Nat → Except SyntaxError (Gap × Cursor)
  | 0 => .ok (g, c)
  | fuel + 1 =>
    match c.peek with
    | none => .ok (g, c)
    | some x =>
      if isSpaceOrTab x then
        if g.broken && x = '\t' && least.any (c.mark.column < ·) then
          .error ⟨"found a tab character that violates indentation", c.mark,
            some ("while scanning a plain scalar", start)⟩
        else readGap least start c.skip
          (if g.broken then g else { g with blanks := g.blanks ++ [x] }) fuel
      else if isBreak x then
        readGap least start c.skipBreak
          (if g.broken then { g with more := g.more ++ c.breakText }
           else { g with broken := true, blanks := [], first := c.breakText }) fuel
      else .ok (g, c)

/-- The characters of a plain scalar up to a blank or an indicator that ends it. -/
def plainRun (flow : Bool) (start : Mark) (c : Cursor) (taken : List Char) :
    Nat → Except SyntaxError (List Char × Cursor)
  | 0 => .ok (taken.reverse, c)
  | fuel + 1 =>
    match c.peek with
    | none => .ok (taken.reverse, c)
    | some x =>
      if isSpaceOrTab x || isBreak x then .ok (taken.reverse, c)
      else if flow && x = ':' && (c.peekAt 1).any (",?[]\x7b\x7d".toList.contains ·) then
        .error ⟨"found unexpected ':'", c.mark, some ("while scanning a plain scalar", start)⟩
      else if (x = ':' && isBlankEnd (c.peekAt 1)) ||
          (flow && ",[]\x7b\x7d".toList.contains x) then
        .ok (taken.reverse, c)
      else plainRun flow start c.skip (x :: taken) fuel

structure ScalarText where
  text : List Char
  stop : Mark
  /-- Whether a line end follows, behind which a key may begin. -/
  lineEnded : Bool

/-- Reads a plain scalar whose later lines must be indented by `least`. -/
def plainScalar (flow : Bool) (least : Nat) (start : Mark) (c : Cursor) (s : ScalarText) (g : Gap) :
    Nat → Except SyntaxError (ScalarText × Cursor)
  | 0 => .ok (s, c)
  | fuel + 1 => do
    if c.atDocumentMark || c.at_ '#' then return (s, c)
    let (run, c) ← plainRun flow start c [] c.rest.length
    let (s, g) : ScalarText × Gap :=
      if run.isEmpty then (s, g) else (⟨s.text ++ g.fold ++ run, c.mark, false⟩, {})
    if !(c.atSpaceOrTab || c.atBreak) then return (s, c)
    let (g, c) ← readGap (some least) start c g (c.rest.length + 1)
    let s := { s with lineEnded := g.broken }
    if !flow && c.mark.column < least then return (s, c)
    plainScalar flow least start c s g fuel

/-- The characters that a backslash and one letter stand for. -/
def escapes : List (Char × Char) :=
  [('0', '\x00'), ('a', '\x07'), ('b', '\x08'), ('t', '\t'), ('\t', '\t'), ('n', '\n'),
    ('v', '\x0b'), ('f', '\x0c'), ('r', '\r'), ('e', '\x1b'), (' ', ' '), ('"', '"'),
    ('/', '/'), ('\\', '\\'), ('N', '\u0085'), ('_', '\u00a0'), ('L', '\u2028'), ('P', '\u2029')]

def escapeDigits : List (Char × Nat) := [('x', 2), ('u', 4), ('U', 8)]

def hexValue? (c : Char) : Option Nat :=
  if c.isDigit then some (c.toNat - '0'.toNat)
  else if 'a' ≤ c && c ≤ 'f' then some (c.toNat - 'a'.toNat + 10)
  else if 'A' ≤ c && c ≤ 'F' then some (c.toNat - 'A'.toNat + 10)
  else none

/-- Reads an escape, of which the backslash is the next character. -/
def readEscape (start : Mark) (c : Cursor) : Except SyntaxError (Char × Cursor) := do
  let context := some ("while parsing a quoted scalar", start)
  let some letter := c.peekAt 1
    | throw ⟨"found unexpected end of stream", c.mark, context⟩
  if let some x := escapes.lookup letter then return (x, c.skip 2)
  let some count := escapeDigits.lookup letter
    | throw ⟨"found unknown escape character", c.mark, context⟩
  let c := c.skip 2
  let some digits := (c.rest.take count).mapM hexValue?
    | throw ⟨"did not find expected hexdecimal number", c.mark, context⟩
  if digits.length < count then
    throw ⟨"did not find expected hexdecimal number", c.mark, context⟩
  let value := digits.foldl (fun n d => 16 * n + d) 0
  if (0xD800 ≤ value && value ≤ 0xDFFF) || value > 0x10FFFF then
    throw ⟨"found invalid Unicode character escape code", c.mark, context⟩
  return (Char.ofNat value, c.skip count)

/-- The characters of a quoted scalar up to a blank, the closing quote or an escaped line end. The
flag tells that a line end was escaped. -/
def quotedRun (double : Bool) (start : Mark) (c : Cursor) (taken : List Char) :
    Nat → Except SyntaxError (List Char × Bool × Cursor)
  | 0 => .ok (taken.reverse, false, c)
  | fuel + 1 =>
    match c.peek with
    | none => .ok (taken.reverse, false, c)
    | some x =>
      if isSpaceOrTab x || isBreak x then .ok (taken.reverse, false, c)
      else if !double && x = '\'' then
        if c.peekAt 1 = some '\'' then quotedRun double start (c.skip 2) ('\'' :: taken) fuel
        else .ok (taken.reverse, false, c)
      else if double && x = '"' then .ok (taken.reverse, false, c)
      else if double && x = '\\' then
        if (c.peekAt 1).any isBreak then .ok (taken.reverse, true, c.skip.skipBreak)
        else do
          let (y, c) ← readEscape start c
          quotedRun double start c (y :: taken) fuel
      else quotedRun double start c.skip (x :: taken) fuel

/-- Reads a quoted scalar behind its opening quote. -/
def quotedScalar (double : Bool) (start : Mark) (c : Cursor) (text : List Char) :
    Nat → Except SyntaxError (List Char × Cursor)
  | 0 => .ok (text, c)
  | fuel + 1 => do
    let context := some ("while scanning a quoted scalar", start)
    if c.atDocumentMark then throw ⟨"found unexpected document indicator", c.mark, context⟩
    if c.atEnd then throw ⟨"found unexpected end of stream", c.mark, context⟩
    let (run, escaped, c) ← quotedRun double start c [] c.rest.length
    let text := text ++ run
    if c.at_ (if double then '"' else '\'') && !escaped then return (text, c.skip)
    let (g, c) ← readGap none start c { broken := escaped } (c.rest.length + 1)
    quotedScalar double start c (text ++ g.fold) fuel

/-- What becomes of the line ends behind a block scalar. -/
inductive Chomping where
  | strip
  | clip
  | keep
  deriving DecidableEq

/-- Reads line ends and, up to column `indent`, leading spaces. With no indentation known yet, the
deepest blank line is measured. -/
def blockBreaks (indent : Option Nat) (start : Mark) (c : Cursor) (breaks : List Char)
    (deepest : Nat) (stop : Mark) :
    Nat → Except SyntaxError (List Char × Nat × Mark × Cursor)
  | 0 => .ok (breaks, deepest, stop, c)
  | fuel + 1 => do
    let spaces := (c.rest.takeWhile (· = ' ')).length
    let c := c.skip (match indent with
      | some n => min spaces (n - c.mark.column)
      | none => spaces)
    let deepest := max deepest c.mark.column
    if c.at_ '\t' && indent.all (c.mark.column < ·) then
      throw ⟨"found a tab character where an indentation space is expected", c.mark,
        some ("while scanning a block scalar", start)⟩
    if c.atBreak then
      let next := c.skipBreak
      blockBreaks indent start next (breaks ++ c.breakText) deepest next.mark fuel
    else return (breaks, deepest, stop, c)

/-- The text of a block scalar so far, and the line ends that may still become part of it. -/
structure BlockText where
  text : List Char := []
  leadingBreak : List Char := []
  trailingBreaks : List Char := []
  leadingBlank : Bool := false

/-- Reads the lines of a block scalar. -/
def blockLines (folded : Bool) (indent : Nat) (start : Mark) (c : Cursor) (b : BlockText)
    (stop : Mark) : Nat → Except SyntaxError (BlockText × Mark × Cursor)
  | 0 => .ok (b, stop, c)
  | fuel + 1 => do
    if c.mark.column ≠ indent || c.atEnd then return (b, stop, c)
    let blank := c.atSpaceOrTab
    let joint :=
      if folded && b.leadingBreak = ['\n'] && !b.leadingBlank && !blank then
        if b.trailingBreaks.isEmpty then [' '] else []
      else b.leadingBreak
    let (line, c) := c.readWhile (!isBreak ·)
    let text := b.text ++ joint ++ b.trailingBreaks ++ line
    let leadingBreak := c.breakText
    let (breaks, _, stop, c) ← blockBreaks (some indent) start c.skipBreak [] 0
      c.skipBreak.mark (c.rest.length + 1)
    blockLines folded indent start c ⟨text, leadingBreak, breaks, blank⟩ stop fuel

/-- Reads the indicators behind `|` or `>`, in either order. -/
def blockHeader (start : Mark) (c : Cursor) :
    Except SyntaxError (Chomping × Option Nat × Cursor) := do
  let chomp? : Option Char → Option Chomping
    | some '+' => some .keep
    | some '-' => some .strip
    | _ => none
  let digit? (c : Cursor) : Except SyntaxError (Option Nat × Cursor) :=
    match c.peek with
    | some x =>
      if x = '0' then
        throw ⟨"found an indentation indicator equal to 0", c.mark,
          some ("while scanning a block scalar", start)⟩
      else if x.isDigit then return (some (x.toNat - '0'.toNat), c.skip)
      else return (none, c)
    | none => return (none, c)
  match chomp? c.peek with
  | some chomping =>
    let (indent, c) ← digit? c.skip
    return (chomping, indent, c)
  | none =>
    let (indent, c) ← digit? c
    if indent.isNone then return (.clip, none, c)
    match chomp? c.peek with
    | some chomping => return (chomping, indent, c.skip)
    | none => return (.clip, indent, c)

/-- Reads a block scalar behind its indicator; `parent` is the indentation around it, none at the
top of the document. -/
def blockScalar (folded : Bool) (parent : Option Nat) (start : Mark) (c : Cursor) :
    Except SyntaxError (List Char × Mark × Cursor) := do
  let (chomping, increment, c) ← blockHeader start c
  let (_, c) := c.readWhile isSpaceOrTab
  let (_, c) := if c.at_ '#' then c.readWhile (!isBreak ·) else ([], c)
  if !c.atEnd && !c.atBreak then
    throw ⟨"did not find expected comment or line break", c.mark,
      some ("while scanning a block scalar", start)⟩
  let c := c.skipBreak
  let given := increment.map fun n => parent.getD 0 + n
  let (breaks, deepest, stop, c) ← blockBreaks given start c [] 0 c.mark (c.rest.length + 1)
  let least := match parent with
    | some n => n + 1
    | none => 1
  let indent := given.getD (max deepest least)
  let (b, stop, c) ← blockLines folded indent start c { trailingBreaks := breaks } stop
    (c.rest.length + 1)
  let ending := match chomping with
    | .strip => []
    | .clip => b.leadingBreak
    | .keep => b.leadingBreak ++ b.trailingBreaks
  return (b.text ++ ending, stop, c)

end PlaceholderScripts.Yaml
