/-!
# Positions in a document

Where a character stands, and a text that is read from there on. Lines end at a line feed, a carriage
return or both together, and at the three Unicode line ends.
-/

namespace PlaceholderScripts.Yaml

/-- The number of characters before a place, and its line and column, all from zero. -/
structure Mark where
  index : Nat := 0
  line : Nat := 0
  column : Nat := 0
  deriving DecidableEq, Repr, Inhabited

/-- The first character of a document. -/
def Mark.isStart (m : Mark) : Bool := m.line == 0 && m.column == 0

/-- A place as messages give it, counted from one. -/
def Mark.text (m : Mark) : String :=
  "line " ++ toString (m.line + 1) ++ " column " ++ toString (m.column + 1)

/-- The ending ` at line L column C`, which the first character does without. -/
def Mark.suffix (m : Mark) : String := if m.isStart then "" else " at " ++ m.text

structure SyntaxError where
  problem : String
  mark : Mark
  context : Option (String × Mark) := none
  deriving Repr, DecidableEq

def SyntaxError.message (e : SyntaxError) : String :=
  e.problem ++ e.mark.suffix ++
    match e.context with
    | none => ""
    | some (text, at_) => ", " ++ text ++ if at_ = e.mark then "" else at_.suffix

def isSpaceOrTab (c : Char) : Bool := c = ' ' || c = '\t'

def isBreak (c : Char) : Bool :=
  c = '\n' || c = '\r' || c = '\u0085' || c = '\u2028' || c = '\u2029'

/-- A blank, a line end, or the end of the document. -/
def isBlankEnd : Option Char → Bool
  | none => true
  | some c => isSpaceOrTab c || isBreak c

structure Cursor where
  rest : List Char
  mark : Mark := {}
  deriving Repr, Inhabited

namespace Cursor

def peek (c : Cursor) : Option Char := c.rest.head?

def peekAt (c : Cursor) (i : Nat) : Option Char := c.rest[i]?

def at_ (c : Cursor) (x : Char) : Bool := c.peek == some x

/-- The place behind the next `n` characters, which end no line. -/
def skip (c : Cursor) (n : Nat := 1) : Cursor :=
  let k := min n c.rest.length
  ⟨c.rest.drop k, { c.mark with index := c.mark.index + k, column := c.mark.column + k }⟩

/-- The place behind the next line end. -/
def skipBreak (c : Cursor) : Cursor :=
  let next (k : Nat) : Mark := ⟨c.mark.index + k, c.mark.line + 1, 0⟩
  match c.rest with
  | '\r' :: '\n' :: rest => ⟨rest, next 2⟩
  | x :: rest => if isBreak x then ⟨rest, next 1⟩ else c
  | [] => c

/-- The next line end as it is kept in a text: the Unicode separators are kept as they are. -/
def breakText (c : Cursor) : List Char :=
  match c.peek with
  | some '\u2028' => ['\u2028']
  | some '\u2029' => ['\u2029']
  | some x => if isBreak x then ['\n'] else []
  | none => []

def atSpaceOrTab (c : Cursor) : Bool := c.peek.any isSpaceOrTab

def atBreak (c : Cursor) : Bool := c.peek.any isBreak

def atBlankEnd (c : Cursor) : Bool := isBlankEnd c.peek

def atEnd (c : Cursor) : Bool := c.rest.isEmpty

/-- The characters that satisfy `p`, up to the first that does not, and the place behind them. -/
def readWhile (c : Cursor) (p : Char → Bool) : List Char × Cursor :=
  let taken := c.rest.takeWhile p
  (taken, c.skip taken.length)

/-- Three equal characters and a blank at the start of a line mark the bounds of a document. -/
def atDocumentMark (c : Cursor) : Bool :=
  c.mark.column == 0 && isBlankEnd (c.peekAt 3) &&
    (c.rest.take 3 == ['-', '-', '-'] || c.rest.take 3 == ['.', '.', '.'])

end Cursor

end PlaceholderScripts.Yaml
