import PlaceholderScripts.Number.Decimal
import PlaceholderScripts.Text.Blank

/-!
# Manifests

The manifest of a library lists its files, a line each: the digest of the file in 64 hexadecimal digits
and the name of the file, with blanks between them. Blank lines and lines that begin with a number sign
are passed over.
-/

namespace PlaceholderScripts.Library

/-- A file of a library and the digest that it must have, in lower case. -/
structure ManifestEntry where
  checksum : String
  file : String
  deriving DecidableEq, Repr

/-- A line that lists no file, counted from one. -/
structure ManifestError where
  line : Nat
  content : String
  deriving DecidableEq, Repr

namespace Manifest

/-- Whether a line lists nothing. -/
def isPassedOver (line : List Char) : Bool :=
  match Text.trim line with
  | [] => true
  | c :: _ => c == '#'

def isDigest (word : List Char) : Bool :=
  word.length == 64 && word.all fun c => Decimal.digitValue c < 16

/-- The file that a line lists. -/
def entry? (line : List Char) : Option ManifestEntry :=
  match Text.words line with
  | [digest, file] =>
    if isDigest digest then some ⟨String.ofList (digest.map Char.toLower), String.ofList file⟩ else none
  | _ => none

/-- The files that lines list, of which the first one has the number `n`. -/
def entriesFrom (n : Nat) : List (List Char) → Except ManifestError (List ManifestEntry)
  | [] => .ok []
  | line :: rest =>
    if isPassedOver line then entriesFrom (n + 1) rest
    else match entry? line with
      | none => .error ⟨n, String.ofList line⟩
      | some e => (entriesFrom (n + 1) rest).map (e :: ·)

def parse (text : String) : Except ManifestError (List ManifestEntry) :=
  entriesFrom 1 (Text.lines text.toList)

end Manifest

end PlaceholderScripts.Library
