import PlaceholderScripts.Substitution

/-!
# Script templates

A template is script text with placeholders. It is read from left to right: at each place a line
comment, a block comment or a `%token%` begins, or a character of plain text stands there. Comments
are copied untouched, so a placeholder inside a comment is none, and only placeholders are handed to
the substitution. What comes back is written literally and not read again.
-/

namespace PlaceholderScripts

inductive Segment where
  | text (chars : List Char)
  | comment (chars : List Char)
  | placeholder (chars : List Char)
  deriving DecidableEq, Repr

namespace Segment

def chars : Segment → List Char
  | .text cs | .comment cs | .placeholder cs => cs

/-- The characters of a placeholder, its delimiters included. -/
def placeholder? : Segment → Option (List Char)
  | .placeholder cs => some cs
  | _ => none

end Segment

namespace Template

/-- The body of a block comment up to and including its first end mark, if it ends. -/
def blockBody? : List Char → Option (List Char)
  | [] => none
  | [_] => none
  | '*' :: '/' :: _ => some ['*', '/']
  | c :: d :: rest => (blockBody? (d :: rest)).map (c :: ·)

/-- The comment or placeholder with which the text begins, if it begins with one. -/
def tokenAt? : List Char → Option Segment
  | '/' :: '/' :: rest => some (.comment ('/' :: '/' :: rest.takeWhile (· ≠ '\n')))
  | '/' :: '*' :: rest => (blockBody? rest).map fun body => .comment ('/' :: '*' :: body)
  | cs => (TokenForm.percent.keyAt? cs).map fun key => .placeholder (TokenForm.percent.token key)

/-- Puts a character of plain text in front of the segments that follow it. -/
def consText (c : Char) : List Segment → List Segment
  | .text cs :: rest => .text (c :: cs) :: rest
  | segments => .text [c] :: segments

/-- The segments behind the first `skip` characters, which belong to a token already read. -/
def segmentsFrom : Nat → List Char → List Segment
  | _, [] => []
  | skip + 1, _ :: rest => segmentsFrom skip rest
  | 0, c :: rest =>
    match tokenAt? (c :: rest) with
    | some token => token :: segmentsFrom (token.chars.length - 1) rest
    | none => consText c (segmentsFrom 0 rest)

def segments (template : String) : List Segment := segmentsFrom 0 template.toList

/-- The placeholders outside comments, in order. -/
def placeholders (template : String) : List String :=
  (segments template).filterMap fun s => s.placeholder?.map String.ofList

/-- What a segment becomes: placeholders are substituted, all else is kept. -/
def substituteSegment {m : Type → Type} [Monad m] (substitute : String → m String) :
    Segment → m (List Char)
  | .placeholder cs => do return (← substitute (String.ofList cs)).toList
  | .text cs | .comment cs => pure cs

/-- Substitutes the placeholders from left to right and puts the pieces together. -/
def scan {m : Type → Type} [Monad m] (substitute : String → m String) (template : String) :
    m String := do
  let pieces ← (segments template).mapM (substituteSegment substitute)
  return String.ofList pieces.flatten

end Template

end PlaceholderScripts
