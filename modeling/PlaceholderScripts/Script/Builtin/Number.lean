import PlaceholderScripts.Script.Builtin.Basic

/-!
# Built-in functions on numbers

Conversions between numbers and texts, functions of real numbers, bits of integers, and a few functions
that tell about a number.
-/

namespace PlaceholderScripts.Script.Builtin

/-- Why a text is no integer of a base. -/
def integerFault (digits : List Char) (base : Nat) : String :=
  let (negative, ds) := Decimal.splitSign digits
  if digits.isEmpty then "cannot parse integer from empty string"
  else if ds.isEmpty || !ds.all (Decimal.digitValue · < base) then "invalid digit found in string"
  else if negative then "number too small to fit in target type"
  else "number too large to fit in target type"

/-- Reads an integer of 64 bits. -/
def parseInt (text : String) (base : Nat) : Except Fault Outcome :=
  let cs := Text.trim text.toList
  let (negative, ds) := Decimal.splitSign cs
  let fault : Fault := .arithmetic (.notInteger text (integerFault cs base))
  match Decimal.nat? base ds with
  | none => .error fault
  | some n =>
    let i : Int := if negative then -(n : Int) else n
    if Arithmetic.fits i then .ok { value := .int i } else .error fault

/-- Reads a double. -/
def parseFloat (text : String) : Except Fault Outcome :=
  let cs := Text.trim text.toList
  match Decimal.double? cs with
  | some x => .ok { value := .float x }
  | none =>
    .error (.arithmetic (.notNumber text
      (if cs.isEmpty then "cannot parse float from empty string" else "invalid float literal")))

/-- A double without its fraction, as an integer of 64 bits. -/
def toInt (x : Double) : Except Fault Outcome :=
  let i := x.truncate
  if x.isFinite && Arithmetic.fits i then .ok { value := .int i }
  else .error (.arithmetic (.beyondIntegers x))

/-- The digits of an integer, whose bits are read without a sign. -/
def digits (base : Nat) (i : Int) : String :=
  String.ofList (Nat.toDigits base (BitVec.ofInt 64 i).toNat)

def through (f : Float → Float) (x : Double) : Double := Double.ofFloat (f x.toFloat)

/-- Functions of one real number by name. -/
def realFunction? : String → Option (Float → Float)
  | "floor" => some Float.floor
  | "ceiling" => some Float.ceil
  | "round" => some Float.round
  | "sqrt" => some Float.sqrt
  | "exp" => some Float.exp
  | "ln" => some Float.log
  | "log" => some Float.log10
  | "sin" => some Float.sin
  | "cos" => some Float.cos
  | "tan" => some Float.tan
  | "sinh" => some Float.sinh
  | "cosh" => some Float.cosh
  | "tanh" => some Float.tanh
  | "asin" => some Float.asin
  | "acos" => some Float.acos
  | "atan" => some Float.atan
  | "asinh" => some Float.asinh
  | "acosh" => some Float.acosh
  | "atanh" => some Float.atanh
  | "to_degrees" => some (· * Float.ofBits 0x404ca5dc1a63c1f8)
  | "to_radians" => some (· * Float.ofBits 0x3f91df46a2529d39)
  | _ => none

/-- Functions of two real numbers by name. -/
def realFunction2? : String → Option (Float → Float → Float)
  | "log" => some fun x base => Float.log x / Float.log base
  | "hypot" => some fun x y => Float.sqrt (x * x + y * y)
  | "atan" => some Float.atan2
  | _ => none

def lesser (x y : Double) : Double := if y.numLt x || x.isNaN then y else x

def greater (x y : Double) : Double := if x.numLt y || x.isNaN then y else x

/-- The integers from `first` on that lie before `last`, at a distance from each other that may be
negative. -/
def stepped (first last step : Int) : Result :=
  if step = 0 then
    refuse (.arithmetic (.other ("step value cannot be zero" ++ ScriptError.callText "range" none)))
  else
    let way := if step > 0 then last - first else first - last
    give (.steps first step ((way + step.natAbs - 1) / step.natAbs).toNat)

/-- A bit of an integer. -/
def bit (i index : Int) : Result :=
  match place? integerBits index with
  | some n => give (.bool ((BitVec.ofInt integerBits i).getLsbD n))
  | none => refuse (.bitBounds index)

/-- The integer with another bit. -/
def withBit (i index : Int) (on : Bool) : Result :=
  match place? integerBits index with
  | some n =>
    let bits := BitVec.ofInt integerBits i
    let mask := BitVec.twoPow integerBits n
    change (.int (if on then bits ||| mask else bits &&& ~~~mask).toInt)
  | none => refuse (.bitBounds index)

/-- Functions on an integer. -/
def ofInteger (name : String) (i : Int) (arguments : List Value) : Result :=
  match name, arguments with
  | "to_float", [] => give (.float (Double.ofInt i))
  | "to_int", [] => give (.int i)
  | "abs", [] =>
    if Arithmetic.fits i.natAbs then give (.int i.natAbs)
    else refuse (.arithmetic (.magnitudeOverflow i))
  | "sign", [] => give (.int i.sign)
  | "is_zero", [] => give (.bool (i == 0))
  | "is_odd", [] => give (.bool (i % 2 != 0))
  | "is_even", [] => give (.bool (i % 2 == 0))
  | "to_hex", [] => give (.text (digits 16 i))
  | "to_octal", [] => give (.text (digits 8 i))
  | "to_binary", [] => give (.text (digits 2 i))
  | "to_char", [] =>
    if 0 ≤ i && i.toNat.isValidChar then give (.char (Char.ofNat i.toNat))
    else refuse (.arithmetic (.other ("Integer is not a valid character: " ++ toString i)))
  | "min", [.int j] => give (.int (min i j))
  | "max", [.int j] => give (.int (max i j))
  | "min", [.float y] => give (.float (lesser (Double.ofInt i) y))
  | "max", [.float y] => give (.float (greater (Double.ofInt i) y))
  | "get_bit", [.int index] => bit i index
  | "set_bit", [.int index, .bool on] => withBit i index on
  | "range", [.int j] => give (.range i j false)
  | "range", [.int j, .int step] => stepped i j step
  | _, _ => none

/-- Functions on a double. -/
def ofDouble (name : String) (x : Double) (arguments : List Value) : Result :=
  match name, arguments with
  | "to_float", [] => give (.float x)
  | "to_int", [] => some (toInt x)
  | "abs", [] => give (.float x.abs)
  | "sign", [] =>
    if x.isNaN then refuse (.arithmetic (.other "Sign of NaN is undefined"))
    else give (.int (if x.isZero then 0 else if x.isNegative then -1 else 1))
  | "is_zero", [] => give (.bool x.isZero)
  | "is_nan", [] => give (.bool x.isNaN)
  | "is_finite", [] => give (.bool x.isFinite)
  | "is_infinite", [] => give (.bool x.isInfinite)
  | "int", [] => give (.float (if x.isNegative then through Float.ceil x else through Float.floor x))
  | "fraction", [] =>
    let whole := if x.isNegative then through Float.ceil x else through Float.floor x
    give (.float (x.sub whole))
  | "min", [.float y] => give (.float (lesser x y))
  | "max", [.float y] => give (.float (greater x y))
  | "min", [.int j] => give (.float (lesser x (Double.ofInt j)))
  | "max", [.int j] => give (.float (greater x (Double.ofInt j)))
  | name, [] => (realFunction? name).bind fun f => give (.float (through f x))
  | name, [.float y] =>
    (realFunction2? name).bind fun f => give (.float (Double.ofFloat (f x.toFloat y.toFloat)))
  | _, _ => none

/-- Functions that read a number from a text. -/
def parsed (name : String) (s : String) (arguments : List Value) : Result :=
  match name, arguments with
  | "parse_int", [] => some (parseInt s 10)
  | "parse_int", [.int base] =>
    if 2 ≤ base && base ≤ 36 then some (parseInt s base.toNat)
    else refuse (.arithmetic (.other ("Invalid radix: '" ++ toString base ++ "'")))
  | "parse_float", [] => some (parseFloat s)
  | _, _ => none

end PlaceholderScripts.Script.Builtin
