import PlaceholderScripts.Text.Casing.Table

/-!
# Upper and lower case

Full case conversion of texts: a character may become several, and a capital sigma at the end of a
word becomes the final form of the letter.
-/

namespace PlaceholderScripts.Text

/-- Membership in a class that is given by the code points at which it changes. -/
def memberOf (changes : List Nat) (c : Char) : Bool :=
  (changes.takeWhile (· ≤ c.toNat)).length % 2 == 1

def CaseRun.shift? (run : CaseRun) (n : Nat) : Option Nat :=
  if run.first ≤ n && n ≤ run.last && (n - run.first) % run.step == 0 then
    some (n + run.shift).toNat
  else none

/-- The image of a character outside ASCII. -/
def mapCase (runs : List CaseRun) (expansions : List (Nat × List Nat)) (c : Char) : List Char :=
  match expansions.lookup c.toNat with
  | some image => image.map Char.ofNat
  | none =>
    match runs.findSome? (·.shift? c.toNat) with
    | some n => [Char.ofNat n]
    | none => [c]

def upperChar (c : Char) : List Char :=
  if c.toNat < 128 then [c.toUpper] else mapCase upperRuns upperExpansions c

def lowerChar (c : Char) : List Char :=
  if c.toNat < 128 then [c.toLower] else mapCase lowerRuns lowerExpansions c

/-- Whether the nearest character that counts for case is cased. -/
def nextToCased (cs : List Char) : Bool :=
  match cs.dropWhile (memberOf caseIgnorableChanges) with
  | c :: _ => memberOf casedChanges c
  | [] => false

/-- Lower case of the text behind `before`, which is reversed. -/
def lowerFrom (before : List Char) : List Char → List Char
  | [] => []
  | c :: rest =>
    (if c = 'Σ' then if nextToCased before && !nextToCased rest then ['ς'] else ['σ']
     else lowerChar c) ++ lowerFrom (c :: before) rest

def toUpper (cs : List Char) : List Char := cs.flatMap upperChar

def toLower (cs : List Char) : List Char := lowerFrom [] cs

end PlaceholderScripts.Text
