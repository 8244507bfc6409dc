import PlaceholderScripts.Number.Decimal

/-!
# What plain scalars mean

A scalar without quotes is null, a truth value, an integer, a double, or else text, by its spelling
alone. Digits behind a leading zero are text. Integers are exact up to 64 bits; up to 128 bits they
are recognised but too wide for any reader; longer ones are doubles.
-/

namespace PlaceholderScripts.Yaml

inductive Plain where
  | null
  | bool (value : Bool)
  | int (value : Int)
  | wideInt (value : Int)
  | float (value : Double)
  | text

namespace Plain

def isNull (text : String) : Bool := ["null", "Null", "NULL", "~"].contains text

def bool? (text : String) : Option Bool :=
  if ["true", "True", "TRUE"].contains text then some true
  else if ["false", "False", "FALSE"].contains text then some false
  else none

/-- An optional sign, a zero, and more digits. -/
def isZeroPadded (cs : List Char) : Bool :=
  match (Decimal.splitSign cs).2 with
  | '0' :: rest => !rest.isEmpty && rest.all Char.isDigit
  | _ => false

/-- An integer without regard to its size: decimal, or in base 16, 8 or 2 behind its mark. -/
def int? (cs : List Char) : Option Int :=
  let (negative, body) := Decimal.splitSign cs
  let magnitude : Option Nat := match body with
    | '0' :: 'x' :: ds => Decimal.nat? 16 ds
    | '0' :: 'o' :: ds => Decimal.nat? 8 ds
    | '0' :: 'b' :: ds => Decimal.nat? 2 ds
    | ds => if isZeroPadded cs then none else Decimal.nat? 10 ds
  magnitude.map fun n => if negative then -(n : Int) else n

def isInfinityWord (cs : List Char) : Bool :=
  [".inf", ".Inf", ".INF"].contains (String.ofList cs)

/-- A double: an infinity, not a number, or a decimal with a finite value. -/
def float? (cs : List Char) : Option Double :=
  let (negative, body) := Decimal.splitSign cs
  if isInfinityWord body then some (Double.infinity negative)
  else if [".nan", ".NaN", ".NAN"].contains (String.ofList cs) then some Double.nan
  else (Decimal.unsignedDouble? negative body).filter Double.isFinite

def ofString (text : String) : Plain :=
  let cs := text.toList
  if text.isEmpty || isNull text then .null
  else match bool? text with
  | some b => .bool b
  | none =>
    match int? cs with
    | some i =>
      if -(2 ^ 63) ≤ i && i < 2 ^ 64 then .int i
      else if -(2 ^ 127) ≤ i && i < 2 ^ 128 then .wideInt i
      else ofDigits cs
    | none => ofDigits cs
where
  ofDigits (cs : List Char) : Plain :=
    if isZeroPadded cs then .text else (float? cs).elim .text .float

end Plain

end PlaceholderScripts.Yaml
