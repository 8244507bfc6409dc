import PlaceholderScripts.Number.Decimal
import PlaceholderScripts.Text.Blank

/-!
# Tokens of the script language

Words, symbols and literals with their places. Blanks and comments stand between tokens; block
comments nest, and one that does not end runs to the end of the script. A text between backquotes may
hold code: it is laid out as a sequence of texts and pieces of code, so that the tokens of a script are
one flat list. What is no token is kept as a fault, which is an error only for a reader that gets there.
-/

namespace PlaceholderScripts.Script

/-- Line and column of a character, from one. -/
structure Position where
  line : Nat := 1
  column : Nat := 1
  deriving DecidableEq, Repr, Inhabited

def Position.text (p : Position) : String :=
  "line " ++ toString p.line ++ ", position " ++ toString p.column

def Position.after (p : Position) (c : Char) : Position :=
  if c = '\n' then ⟨p.line + 1, 1⟩ else { p with column := p.column + 1 }

def Position.afterAll (p : Position) (cs : List Char) : Position := cs.foldl Position.after p

inductive Lexeme where
  | int (value : Int)
  | float (value : Double)
  | char (value : Char)
  | text (value : String)
  /-- The beginning of a text with code in it. -/
  | templateOpen
  | templateText (value : String)
  /-- The beginning of a piece of code, which a closing brace ends. -/
  | templateCode
  | templateClose
  | word (name : String)
  | symbol (name : String)
  | fault (message : String)
  deriving DecidableEq, Repr

structure Token where
  lexeme : Lexeme
  position : Position
  deriving DecidableEq, Repr

/-- Symbols, longer ones before their beginnings. -/
def symbols : List String :=
  ["**=", "<<=", ">>=", "..=", "===", "!==", "...", "::<",
    "+=", "-=", "*=", "/=", "%=", "&=", "|=", "^=", "==", "!=", "<=", ">=", "&&", "||", "**", "<<",
    ">>", "..", "::", "=>", "??", "?.", "?[", "#\x7b", "++", "--", "->", "<-", ":=", ":;",
    "+", "-", "*", "/", "%", "=", "<", ">", "!", "&", "|", "^", ".", ",", ";", ":", "(", ")", "[", "]",
    "\x7b", "\x7d", "?", "~", "#", "$", "@"]

def reservedSymbols : List String :=
  ["===", "!==", "...", "::<", "++", "--", "->", "<-", ":=", ":;", "?", "~", "#", "$", "@"]

/-- Words that no script may use as names. -/
def reservedWords : List String :=
  ["var", "static", "shared", "is", "goto", "match", "use", "with", "module", "package", "public",
    "protected", "super", "new", "void", "null", "nil", "spawn", "thread", "go", "sync", "async",
    "await", "yield", "case", "default"]

/-- Words with a meaning of their own. -/
def keywords : List String :=
  ["let", "const", "true", "false", "if", "else", "switch", "do", "while", "until", "loop", "for",
    "in", "fn", "private", "continue", "break", "return", "throw", "try", "catch", "import", "export",
    "as", "this"]

def isWordStart (c : Char) : Bool := c.isAlpha || c = '_'

def isWordChar (c : Char) : Bool := c.isAlphanum || c = '_'

/-- Names hold a letter, and no digit before it. -/
def isProperName (name : List Char) : Bool := (name.dropWhile (· = '_')).head?.any Char.isAlpha

/-- Whether an operand ends with this lexeme, so that a sign behind it adds or subtracts. -/
def Lexeme.endsOperand : Lexeme → Bool
  | .int _ | .float _ | .char _ | .text _ | .templateClose => true
  | .word name => !(keywords.erase "this").contains name || name = "true" || name = "false"
  | .symbol name => name = ")" || name = "]" || name = "\x7d"
  | _ => false

/-- Skips a block comment behind its first two characters, of which `depth` more are open. -/
def skipComment (depth : Nat) (p : Position) : List Char → List Char × Position
  | '/' :: '*' :: rest => skipComment (depth + 1) { p with column := p.column + 2 } rest
  | '*' :: '/' :: rest =>
    let p := { p with column := p.column + 2 }
    match depth with
    | 0 => (rest, p)
    | n + 1 => skipComment n p rest
  | c :: rest => skipComment depth (p.after c) rest
  | [] => ([], p)

def digitRun (cs : List Char) : List Char := cs.takeWhile fun c => c.isDigit || c = '_'

/-- A number and the characters it takes. A point belongs to it only before a digit, or where it can
begin neither a name nor a range. -/
def readNumber (negative : Bool) (cs : List Char) : Lexeme × Nat :=
  let clean (ds : List Char) : List Char := ds.filter (· ≠ '_')
  let sign (n : Nat) : Int := if negative then -(n : Int) else n
  let inBase (base : Nat) (rest : List Char) : Lexeme × Nat :=
    let ds := rest.takeWhile fun c => Decimal.digitValue c < base || c = '_'
    match Decimal.nat? base (clean ds) with
    | some n =>
      (if n < 2 ^ 64 then .int (Int.bmod (sign n) (2 ^ 64)) else
        .fault ("Invalid number: '" ++ String.ofList (cs.take (ds.length + 2)) ++ "'"),
        ds.length + 2)
    | none => (.fault ("Invalid number: '" ++ String.ofList (cs.take (ds.length + 2)) ++ "'"),
        ds.length + 2)
  match cs with
  | '0' :: 'x' :: rest | '0' :: 'X' :: rest => inBase 16 rest
  | '0' :: 'o' :: rest | '0' :: 'O' :: rest => inBase 8 rest
  | '0' :: 'b' :: rest | '0' :: 'B' :: rest => inBase 2 rest
  | _ =>
    let whole := digitRun cs
    let rest := cs.drop whole.length
    let (fraction, point, rest) : List Char × Nat × List Char := match rest with
      | '.' :: c :: after =>
        if c.isDigit then
          let ds := digitRun (c :: after)
          (ds, ds.length + 1, (c :: after).drop ds.length)
        else if c = '_' || c = '.' || c.isAlpha then ([], 0, rest)
        else ([], 1, c :: after)
      | _ => ([], 0, rest)
    let power : List Char := match rest with
      | 'e' :: c :: after =>
        if c.isDigit then 'e' :: digitRun (c :: after)
        else if (c = '+' || c = '-') && after.head?.any Char.isDigit then
          'e' :: c :: digitRun after
        else []
      | _ => []
    let count := whole.length + point + power.length
    let n := Decimal.valueOf 10 (clean whole)
    if point == 0 && power.isEmpty && -(2 ^ 63) ≤ sign n && sign n < 2 ^ 63 then (.int (sign n), count)
    else
      let text := clean whole ++ '.' :: '0' :: clean power
      let text := if fraction.isEmpty then text else clean whole ++ '.' :: clean fraction ++ clean power
      match Decimal.unsignedDouble? negative text with
      | some x => (.float x, count)
      | none => (.fault ("Invalid number: '" ++ String.ofList (cs.take count) ++ "'"), count)

/-- What a backslash and a letter stand for. -/
def simpleEscapes : List (Char × Char) :=
  [('\\', '\\'), ('t', '\t'), ('r', '\r'), ('n', '\n')]

def numericEscapes : List (Char × Nat) := [('x', 2), ('u', 4), ('U', 8)]

/-- A character that was written as an escape, and the number of characters behind the backslash. -/
def readEscape (quote : Char) (cs : List Char) : Except String (Char × Nat) :=
  match cs with
  | [] => .error "Open string is not terminated"
  | c :: rest =>
    match simpleEscapes.lookup c, numericEscapes.lookup c with
    | some x, _ => .ok (x, 1)
    | none, some count =>
      let ds := rest.take count
      let n := Decimal.valueOf 16 ds
      if ds.length < count || !ds.all (Decimal.digitValue · < 16) || !n.isValidChar then
        .error ("Invalid escape sequence: '\\" ++ String.ofList (c :: ds) ++ "'")
      else .ok (Char.ofNat n, count + 1)
    | none, none =>
      if c = quote then .ok (c, 1)
      else .error ("Invalid escape sequence: '\\" ++ String.singleton c ++ "'")

/-- The inside of a text between double quotes, its length, and whether it is faulty. An escaped line
end continues the text on the next line, whose blanks up to column `margin` are passed over. -/
def readText (quote : Char) (margin : Nat) (cs : List Char) (taken : List Char) (count : Nat) :
    Nat → Except String (List Char × Nat)
  | 0 => .error "Open string is not terminated"
  | fuel + 1 =>
    match cs with
    | [] => .error "Open string is not terminated"
    | c :: rest =>
      if c = quote then
        if rest.head? = some quote then
          readText quote margin (rest.drop 1) (quote :: taken) (count + 2) fuel
        else .ok (taken.reverse, count + 1)
      else if c = '\n' then .error "Open string is not terminated"
      else if c = '\\' then
        match rest with
        | '\n' :: after =>
          let blanks := ((after.take margin).takeWhile fun c => c ≠ '\n' && Text.isBlank c).length
          readText quote margin (after.drop blanks) taken (count + 2 + blanks) fuel
        | _ =>
          match readEscape quote rest with
          | .error e => .error e
          | .ok (x, n) => readText quote margin (rest.drop n) (x :: taken) (count + 1 + n) fuel
      else readText quote margin rest (c :: taken) (count + 1) fuel

/-- The text between backquotes up to its end or to a piece of code. The flag tells that it ended. -/
def readBackquoted (cs : List Char) (taken : List Char) (count : Nat) :
    Nat → Except String (List Char × Nat × Bool)
  | 0 => .error "Open string is not terminated"
  | fuel + 1 =>
    match cs with
    | [] => .error "Open string is not terminated"
    | '\x60' :: '\x60' :: rest => readBackquoted rest ('\x60' :: taken) (count + 2) fuel
    | '\x60' :: _ => .ok (taken.reverse, count + 1, true)
    | '$' :: '\x7b' :: _ => .ok (taken.reverse, count + 2, false)
    | c :: rest => readBackquoted rest (c :: taken) (count + 1) fuel

structure Lexing where
  rest : List Char
  position : Position := {}
  /-- The tokens so far, the last one first. -/
  tokens : List Token := []
  /-- For each piece of code around this place, the number of braces open in it. -/
  braces : List Nat := []

namespace Lexing

def push (s : Lexing) (lexeme : Lexeme) (p : Position) : Lexing :=
  { s with tokens := ⟨lexeme, p⟩ :: s.tokens }

def drop (s : Lexing) (n : Nat) : Lexing :=
  { s with rest := s.rest.drop n, position := s.position.afterAll (s.rest.take n) }

def take (s : Lexing) (n : Nat) (lexeme : Lexeme) : Lexing := (s.push lexeme s.position).drop n

/-- A fault ends the reading. -/
def fail (s : Lexing) (message : String) (p : Position) : Lexing :=
  { s.push (.fault message) p with rest := [] }

/-- Reads on in a text between backquotes, which began at `start`. -/
def template (s : Lexing) (start : Position) : Lexing :=
  match readBackquoted s.rest [] 0 (s.rest.length + 1) with
  | .error e => s.fail e start
  | .ok (text, count, ended) =>
    let s := s.push (.templateText (String.ofList text)) s.position
    if ended then s.take count .templateClose
    else { s.take count .templateCode with braces := 0 :: s.braces }

/-- A word, unless it is no proper name. -/
def word (s : Lexing) : Lexing :=
  let name := s.rest.takeWhile isWordChar
  let text := String.ofList name
  if name = ['_'] then s.take 1 (.symbol "_")
  else if isProperName name then s.take name.length (.word text)
  else s.fail ("Variable name is not proper: '" ++ text ++ "'") s.position

/-- A character between single quotes. -/
def character (s : Lexing) : Lexing :=
  match readText '\'' 0 (s.rest.drop 1) [] 0 (s.rest.length + 1) with
  | .error e => s.fail e s.position
  | .ok ([c], count) => s.take (count + 1) (.char c)
  | .ok (cs, _) => s.fail ("Invalid character: '" ++ String.ofList cs ++ "'") s.position

/-- A symbol; braces are counted, since one of them may end a piece of code inside a text. -/
def symbol (s : Lexing) (name : String) : Lexing :=
  let start := s.position
  if name = "\x7b" || name = "#\x7b" then
    match s.braces with
    | n :: outer => { s.take name.length (.symbol name) with braces := (n + 1) :: outer }
    | [] => s.take name.length (.symbol name)
  else if name = "\x7d" then
    match s.braces with
    | 0 :: outer => { s.take 1 (.symbol name) with braces := outer }.template start
    | (n + 1) :: outer => { s.take 1 (.symbol name) with braces := n :: outer }
    | [] => s.take 1 (.symbol name)
  else s.take name.length (.symbol name)

/-- Reads the next token, or passes over a blank or a comment. -/
def step (s : Lexing) : Lexing :=
  match s.rest with
  | [] => s
  | '/' :: '/' :: rest => s.drop ((rest.takeWhile (· ≠ '\n')).length + 2)
  | '/' :: '*' :: rest =>
    let (rest, p) := skipComment 0 { s.position with column := s.position.column + 2 } rest
    { s with rest, position := p }
  | c :: rest =>
    if Text.isBlank c then s.drop 1
    else if isWordStart c then s.word
    else if c.isDigit then
      let (lexeme, count) := readNumber false s.rest
      s.take count lexeme
    else if c = '"' then
      match readText '"' s.position.column rest [] 0 (rest.length + 1) with
      | .error e => s.fail e s.position
      | .ok (text, count) => s.take (count + 1) (.text (String.ofList text))
    else if c = '\'' then s.character
    else if c = '\x60' then
      let start := s.position
      let s := s.take 1 .templateOpen
      let s := match s.rest with
        | '\r' :: '\n' :: _ => s.drop 2
        | '\n' :: _ => s.drop 1
        | _ => s
      s.template start
    else if c = '-' && rest.head?.any Char.isDigit &&
        !(s.tokens.head?.any (·.lexeme.endsOperand)) then
      let (lexeme, count) := readNumber true rest
      s.take (count + 1) lexeme
    else
      match symbols.find? (·.toList.isPrefixOf s.rest) with
      | some name => s.symbol name
      | none => s.fail ("Unexpected '" ++ String.singleton c ++ "'") s.position

/-- At most `fuel` steps; each takes at least one character. -/
def steps (s : Lexing) : Nat → Lexing
  | 0 => s
  | fuel + 1 => if s.rest.isEmpty then s else s.step.steps fuel

end Lexing

/-- The tokens of a script, and the place where it ends. -/
def tokens (script : String) : List Token × Position :=
  let cs := script.toList
  let s := Lexing.steps { rest := cs } (cs.length + 1)
  -- a piece of code that is still open leaves its text without an end
  let s := if s.braces.isEmpty then s else s.push (.fault "Open string is not terminated") s.position
  (s.tokens.reverse, s.position)

end PlaceholderScripts.Script
