import PlaceholderScripts.Number.Double
import PlaceholderScripts.Number.Power

/-!
# Reading decimal numbers

Two grammars of numbers in text: natural numbers in a base, and decimals with an optional fraction
and exponent. Both take the whole text or nothing, and neither allows blanks.
-/

namespace PlaceholderScripts.Decimal

/-- The value of a digit in bases up to thirty-six. -/
def digitValue (c : Char) : Nat :=
  if c.isDigit then c.toNat - '0'.toNat
  else if 'a' ≤ c && c ≤ 'z' then c.toNat - 'a'.toNat + 10
  else if 'A' ≤ c && c ≤ 'Z' then c.toNat - 'A'.toNat + 10
  else 36

/-- The number written by a run of digits, whose value is read from left to right. -/
def valueOf (base : Nat) (ds : List Char) : Nat :=
  ds.foldl (fun n c => n * base + digitValue c) 0

def nat? (base : Nat) (ds : List Char) : Option Nat :=
  if !ds.isEmpty && ds.all (fun c => digitValue c < base) then some (valueOf base ds) else none

/-- An optional `+` or `-`, and the rest. -/
def splitSign : List Char → Bool × List Char
  | '-' :: rest => (true, rest)
  | '+' :: rest => (false, rest)
  | cs => (false, cs)

/-- An optional sign and decimal digits. -/
def int? (cs : List Char) : Option Int :=
  let (negative, ds) := splitSign cs
  (nat? 10 ds).map fun n => if negative then -(n : Int) else n

/-- A number with at least one digit before or behind an optional point, and an optional exponent;
the sign is read by the caller. -/
def unsignedDouble? (negative : Bool) (cs : List Char) : Option Double :=
  let whole := cs.takeWhile Char.isDigit
  let afterWhole := cs.dropWhile Char.isDigit
  let (fraction, rest) := match afterWhole with
    | '.' :: r => (r.takeWhile Char.isDigit, r.dropWhile Char.isDigit)
    | r => ([], r)
  if whole.isEmpty && fraction.isEmpty then none else
  let build (exponent : Int) : Double :=
    Double.ofDecimal negative (valueOf 10 (whole ++ fraction)) (exponent - fraction.length)
  match rest with
  | [] => some (build 0)
  | e :: power => if e == 'e' || e == 'E' then (int? power).map build else none

def isWord (word : String) (cs : List Char) : Bool := cs.map Char.toLower == word.toList

/-- A decimal, or `inf`, `infinity` or `nan` in any letter case, behind an optional sign. -/
def double? (cs : List Char) : Option Double :=
  let (negative, body) := splitSign cs
  if isWord "inf" body || isWord "infinity" body then some (Double.infinity negative)
  else if isWord "nan" body then some Double.nan
  else unsignedDouble? negative body

end PlaceholderScripts.Decimal
