import PlaceholderScripts.Datum
import PlaceholderScripts.Number.Shortest
import PlaceholderScripts.Yaml.Mark
import PlaceholderScripts.Yaml.Scalar

/-!
# Writing documents

Values are written in block form, keys in ascending order, two columns for each level. A sequence
stands at the column of the key it belongs to. A text is plain unless it would not read back as the
same text; then it is quoted, and a text of several lines is a literal block. Keys of more than 128
bytes, and keys of several lines, are written behind a question mark.
-/

namespace PlaceholderScripts.Yaml

/-- Characters that may stand in a document unescaped. -/
def isPrintable (c : Char) : Bool :=
  let n := c.toNat
  n == 0x0A || (0x20 ≤ n && n ≤ 0x7E) || (0xA0 ≤ n && n ≤ 0xFFFD && n ≠ 0xFEFF) || 0x10000 ≤ n

/-- What decides in which forms a text can be written. -/
structure Analysis where
  plain : Bool
  single : Bool
  block : Bool
  multiline : Bool

namespace Analysis

/-- Whether a plain text cannot begin with these characters. -/
def badStart : List Char → Bool
  | [] => false
  | c :: rest =>
    let spaced := isBlankEnd rest.head?
    "#,[]\x7b\x7d&*!|>'\"%@`".toList.contains c || ((c = '?' || c = ':' || c = '-') && spaced)

/-- Whether a plain text cannot go on with these characters behind `before`. -/
def badInside (before : Char) : List Char → Bool
  | [] => false
  | c :: rest =>
    (c = ':' && isBlankEnd rest.head?) || (c = '#' && isBlankEnd (some before)) ||
      badInside c rest

/-- Whether a character of the class `p` is followed by one of the class `q`. -/
def hasPair (p q : Char → Bool) : List Char → Bool
  | a :: b :: rest => (p a && q b) || hasPair p q (b :: rest)
  | _ => false

def of (cs : List Char) : Analysis :=
  let isSpace (c : Char) : Bool := c = ' '
  let special := cs.any fun c => c ≠ '\t' && !isPrintable c
  let tabs := cs.contains '\t'
  let multiline := cs.any isBreak
  let edge (c : Option Char) : Bool := c.any fun c => isSpace c || isBreak c
  let breakSpace := hasPair isBreak isSpace cs
  let spaceBreak := hasPair isSpace isBreak cs
  let marker := cs.take 3 == ['-', '-', '-'] || cs.take 3 == ['.', '.', '.']
  let indicators := marker || badStart cs ||
    (match cs with
      | c :: rest => badInside c rest
      | [] => false)
  { plain := !(edge cs.head? || edge cs.getLast? || breakSpace || spaceBreak || tabs || special ||
      multiline || indicators)
    single := !(breakSpace || spaceBreak || tabs || special)
    block := !(cs.isEmpty || cs.getLast?.any isSpace || spaceBreak || special)
    multiline := multiline }

end Analysis

/-- Four, eight or two upper-case hexadecimal digits. -/
def upperHex (n digits : Nat) : List Char :=
  (List.range digits).map fun i => (Nat.digitChar (n / 16 ^ (digits - 1 - i) % 16)).toUpper

/-- A character between double quotes. -/
def escapeDouble (c : Char) : List Char :=
  if isPrintable c && !isBreak c && c ≠ '"' && c ≠ '\\' then [c]
  else
    let n := c.toNat
    let letters : List (Char × Char) :=
      [('\x00', '0'), ('\x07', 'a'), ('\x08', 'b'), ('\t', 't'), ('\n', 'n'), ('\x0b', 'v'),
        ('\x0c', 'f'), ('\r', 'r'), ('\x1b', 'e'), ('"', '"'), ('\\', '\\'), ('\u0085', 'N'),
        ('\u00a0', '_'), ('\u2028', 'L'), ('\u2029', 'P')]
    match letters.lookup c with
    | some letter => ['\\', letter]
    | none =>
      if n ≤ 0xFF then '\\' :: 'x' :: upperHex n 2
      else if n ≤ 0xFFFF then '\\' :: 'u' :: upperHex n 4
      else '\\' :: 'U' :: upperHex n 8

def doubleQuoted (cs : List Char) : List Char := '"' :: cs.flatMap escapeDouble ++ ['"']

def spaces (n : Nat) : List Char := List.replicate n ' '

/-- The inside of single quotes: quotes are doubled, and a line end is followed by indentation. -/
def singleInside (indent : Nat) (broken : Bool) : List Char → List Char
  | [] => if broken then spaces indent else []
  | c :: rest =>
    if isBreak c then c :: singleInside indent true rest
    else (if broken then spaces indent else []) ++ (if c = '\'' then ['\'', '\''] else [c]) ++
      singleInside indent false rest

def singleQuoted (indent : Nat) (cs : List Char) : List Char :=
  '\'' :: singleInside indent false cs ++ ['\'']

/-- The lines of a literal block, each behind its indentation. -/
def literalLines (indent : Nat) (atStart : Bool) : List Char → List Char
  | [] => []
  | c :: rest =>
    if isBreak c then c :: literalLines indent true rest
    else (if atStart then spaces indent else []) ++ c :: literalLines indent false rest

/-- The indicators of a literal block: the indentation where the first line does not show it, and
what becomes of the line ends behind it. -/
def literalHints (cs : List Char) : List Char :=
  let indentation := if cs.head?.any fun c => c = ' ' || isBreak c then ['2'] else []
  let chomping := match cs.reverse with
    | [] => ['-']
    | [c] => if isBreak c then ['+'] else ['-']
    | c :: d :: _ => if !isBreak c then ['-'] else if isBreak d then ['+'] else []
  indentation ++ chomping

def literal (indent : Nat) (cs : List Char) : List Char :=
  '|' :: literalHints cs ++ '\n' :: literalLines indent true cs

/-- Whether a plain text would be read as something else. -/
def readsOtherwise (text : String) : Bool :=
  match Plain.ofString text with
  | .text => Plain.isZeroPadded text.toList
  | _ => true

/-- A text at an indentation; a key on one line is never a block. -/
def writeText (indent : Nat) (isKey : Bool) (text : String) : List Char :=
  let cs := text.toList
  let a := Analysis.of cs
  if isKey && a.multiline then doubleQuoted cs
  else if cs.contains '\n' then
    if a.block && !isKey then literal indent cs else doubleQuoted cs
  else if a.plain && !readsOtherwise text then cs
  else if a.single then singleQuoted indent cs
  else doubleQuoted cs

/-- The decimals of a document: an exponent from sixteen digits and from six leading zeros on. -/
def numberLayout : Shortest.Layout :=
  ⟨fun power => -5 ≤ power && power < 16, true, true, ".nan", ".inf"⟩

/-- A value that fits on a line. -/
def writeLeaf (indent : Nat) : Datum → List Char
  | .null => "null".toList
  | .bool b => (toString b).toList
  | .int i => (toString i).toList
  | .float x => numberLayout.text x
  | .text s => writeText indent false s
  | .list _ => ['[', ']']
  | .map _ => ['\x7b', '\x7d']

/-- Ends the line, unless a block has ended it already. -/
def endLine (cs : List Char) : List Char :=
  if cs.getLast?.any (· = '\n') then cs else cs ++ ['\n']

def isSimpleKey (key : String) : Bool :=
  key.utf8ByteSize ≤ 128 && !(key.toList.any isBreak)

/-- A key and the indicator of its value. -/
def writeKey (indent : Nat) (key : String) : List Char :=
  if isSimpleKey key then writeText indent true key ++ [':']
  else
    '?' :: ' ' :: endLine (writeText (indent + 2) false key) ++ spaces indent ++ [':']

mutual

/-- What stands behind the indicator of a value. A collection begins below a key on the same line,
and otherwise beside the indicator. -/
def writeValue (indent : Nat) (inMapping : Bool) : Datum → List Char
  | .list (item :: items) =>
    if inMapping then '\n' :: writeItems indent (item :: items)
    else ' ' :: (writeItems (indent + 2) (item :: items)).drop (indent + 2)
  | .map (entry :: entries) =>
    if inMapping then '\n' :: writeEntries (indent + 2) (entry :: entries)
    else ' ' :: (writeEntries (indent + 2) (entry :: entries)).drop (indent + 2)
  | leaf => ' ' :: endLine (writeLeaf (indent + 2) leaf)

/-- The items of a sequence, one below the other. -/
def writeItems (indent : Nat) : List Datum → List Char
  | [] => []
  | item :: items =>
    spaces indent ++ '-' :: writeValue indent false item ++ writeItems indent items

/-- The entries of a mapping, one below the other. -/
def writeEntries (indent : Nat) : List (String × Datum) → List Char
  | [] => []
  | (key, value) :: entries =>
    spaces indent ++ writeKey indent key ++ writeValue indent (isSimpleKey key) value ++
      writeEntries indent entries

end

/-- The document of a map. -/
def writeMap (entries : List (String × Datum)) : String :=
  String.ofList <| match entries with
    | [] => ['\x7b', '\x7d', '\n']
    | entries => writeEntries 0 entries

end PlaceholderScripts.Yaml
