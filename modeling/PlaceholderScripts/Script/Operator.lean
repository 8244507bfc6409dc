import PlaceholderScripts.Script.Error

/-!
# Operators

What the operators of scripts do with values. Integers have 64 bits, and a result beyond them is an
error; an integer and a double meet as doubles. Values of different types are never equal and never
in order, numbers and a text with a character apart. A text takes any value into it by `+`.
-/

namespace PlaceholderScripts.Script

def signature (name : String) (arguments : List Value) : String :=
  name ++ " (" ++ ", ".intercalate (arguments.map Value.argumentTypeName) ++ ")"

namespace Arithmetic

def fits (i : Int) : Bool := -(2 ^ 63) ≤ i && i < 2 ^ 63

def checked (fault : ArithmeticFault) (i : Int) : Except Fault Value :=
  if fits i then .ok (.int i) else .error (.arithmetic fault)

def divide (x y : Int) : Except Fault Value :=
  if y = 0 then .error (.arithmetic (.divisionByZero x y))
  else checked (.overflow "Division" "/" x y) (Int.tdiv x y)

def remainder (x y : Int) : Except Fault Value :=
  if y = 0 || !fits (Int.tdiv x y) then .error (.arithmetic (.noRemainder x y))
  else .ok (.int (Int.tmod x y))

/-- Powers, of which all but a few bases leave the 64 bits soon. -/
def power (x y : Int) : Except Fault Value :=
  if y < 0 then .error (.arithmetic (.negativePower x y))
  else if y ≥ 2 ^ 32 then .error (.arithmetic (.exponentTooLarge x y))
  else if x = 0 || x = 1 then .ok (.int (if y = 0 then 1 else x))
  else if x = -1 then .ok (.int (if y % 2 = 0 then 1 else -1))
  else if y > 64 then .error (.arithmetic (.powerTooLarge x y))
  else checked (.powerTooLarge x y) (x ^ y.toNat)

/-- Bits moved to the left; those that leave the 64 bits are lost. A negative count moves to the right,
where the sign is kept. -/
def shift (x y : Int) : Int :=
  if y ≥ 64 then 0
  else if y ≥ 0 then Int.bmod (x * 2 ^ y.toNat) (2 ^ 64)
  else if y ≤ -64 then (if x < 0 then -1 else 0)
  else x >>> (-y).toNat

def bitwise (f : BitVec 64 → BitVec 64 → BitVec 64) (x y : Int) : Int :=
  (f (BitVec.ofInt 64 x) (BitVec.ofInt 64 y)).toInt

/-- The operators between two integers. -/
def ofIntegers (name : String) (x y : Int) : Option (Except Fault Value) :=
  match name with
  | "+" => some (checked (.overflow "Addition" "+" x y) (x + y))
  | "-" => some (checked (.overflow "Subtraction" "-" x y) (x - y))
  | "*" => some (checked (.overflow "Multiplication" "*" x y) (x * y))
  | "/" => some (divide x y)
  | "%" => some (remainder x y)
  | "**" => some (power x y)
  | "<<" => some (.ok (.int (shift x y)))
  | ">>" => some (.ok (.int (shift x (-y))))
  | "&" => some (.ok (.int (bitwise (· &&& ·) x y)))
  | "|" => some (.ok (.int (bitwise (· ||| ·) x y)))
  | "^" => some (.ok (.int (bitwise (· ^^^ ·) x y)))
  | ".." => some (.ok (.range x y false))
  | "..=" => some (.ok (.range x y true))
  | _ => none

/-- The operators between two doubles. -/
def ofDoubles (name : String) (x y : Double) : Option Value :=
  match name with
  | "+" => some (.float (x.add y))
  | "-" => some (.float (x.sub y))
  | "*" => some (.float (x.mul y))
  | "/" => some (.float (x.div y))
  | "%" => some (.float (x.rem y))
  | "**" => some (.float (x.pow y))
  | _ => none

end Arithmetic

/-- The result of a comparison by name, from whether the left value is less, equal or greater. -/
def compared (name : String) (lt eq gt : Bool) : Option Bool :=
  match name with
  | "==" => some eq
  | "!=" => some !eq
  | "<" => some lt
  | "<=" => some (lt || eq)
  | ">" => some gt
  | ">=" => some (gt || eq)
  | _ => none

def comparedApart (name : String) : Option Bool := compared name false false false

namespace TextOperation

/-- The characters of a text that is cut at every occurrence of `piece`, which is not empty. The
characters of an occurrence that has begun are passed over. -/
def cut (piece : List Char) : Nat → List Char → List (List Char)
  | _, [] => [[]]
  | skip + 1, _ :: rest => cut piece skip rest
  | 0, c :: rest =>
    if piece.isPrefixOf (c :: rest) then [] :: cut piece (piece.length - 1) rest
    else match cut piece 0 rest with
      | [] => [[c]]
      | first :: others => (c :: first) :: others

/-- The text between the occurrences of `piece`. The empty piece occurs before every character and at
the end. -/
def split (piece cs : List Char) : List (List Char) :=
  if piece.isEmpty then [] :: cs.map (fun c => [c]) ++ [[]] else cut piece 0 cs

def replace (piece other cs : List Char) : List Char := other.intercalate (split piece cs)

def remove (piece text : String) : Value :=
  .text (String.ofList (replace piece.toList [] text.toList))

end TextOperation

mutual

/-- Whether two values are equal. Values of a type without an equality are refused, unless their types
tell them apart. -/
def equals : Value → Value → Except Fault Bool
  | .unit, .unit => .ok true
  | .bool x, .bool y => .ok (x == y)
  | .int x, .int y => .ok (x == y)
  | .float x, .float y => .ok (x.numEq y)
  | .int x, .float y => .ok ((Double.ofInt x).numEq y)
  | .float x, .int y => .ok (x.numEq (Double.ofInt y))
  | .char x, .char y => .ok (x == y)
  | .text x, .text y => .ok (x == y)
  | .char x, .text y => .ok (String.singleton x == y)
  | .text x, .char y => .ok (x == String.singleton y)
  | .list xs, .list ys => if xs.length = ys.length then allEqual xs ys else .ok false
  | .map xs, .map ys => if xs.length = ys.length then sameEntries xs ys else .ok false
  | .range a b c, .range a' b' c' => .ok (a == a' && b == b' && c == c')
  | x, y =>
    if x.fullTypeName = y.fullTypeName then .error (.noFunction (signature "==" [x, y])) else .ok false

def allEqual : List Value → List Value → Except Fault Bool
  | x :: xs, y :: ys =>
    match equals x y with
    | .ok true => allEqual xs ys
    | other => other
  | _, _ => .ok true

def sameEntries : List (String × Value) → List (String × Value) → Except Fault Bool
  | [], _ => .ok true
  | (key, x) :: xs, ys =>
    match Entries.get? key ys with
    | none => .ok false
    | some y =>
      match equals x y with
      | .ok true => sameEntries xs ys
      | other => other

end

/-- Whether a list holds a value. -/
def listContains (v : Value) : List Value → Except Fault Bool
  | [] => .ok false
  | item :: items =>
    match equals item v with
    | .ok false => listContains v items
    | other => other

/-- The comparison of two values by name, if there is one of that name. -/
def comparison (name : String) (x y : Value) : Option (Except Fault Bool) :=
  let texts (a b : String) : Option (Except Fault Bool) := (compared name (a < b) (a == b) (b < a)).map .ok
  let doubles (a b : Double) : Option (Except Fault Bool) :=
    (compared name (a.numLt b) (a.numEq b) (b.numLt a)).map .ok
  match x, y with
  | .int a, .int b => (compared name (a < b) (a == b) (b < a)).map .ok
  | .float a, .float b => doubles a b
  | .int a, .float b => doubles (Double.ofInt a) b
  | .float a, .int b => doubles a (Double.ofInt b)
  | .char a, .char b => texts (String.singleton a) (String.singleton b)
  | .text a, .text b => texts a b
  | .char a, .text b => texts (String.singleton a) b
  | .text a, .char b => texts a (String.singleton b)
  | .bool a, .bool b => (compared name (!a && b) (a == b) (a && !b)).map .ok
  | .unit, .unit => (compared name false true false).map fun r => .ok (r && name == "==")
  | x, y =>
    if x.fullTypeName ≠ y.fullTypeName then (comparedApart name).map .ok
    else if name = "==" then some (equals x y)
    else if name = "!=" then some ((equals x y).map (!·))
    else none

/-- The operators between values of other kinds than numbers. -/
def joined (name : String) (x y : Value) : Option Value :=
  match name, x, y with
  | "+", .char a, .char b => some (.text (String.ofList [a, b]))
  | "+", .text a, b => some (.text (a ++ b.shown))
  | "+", a, .text b => some (.text (a.shown ++ b))
  | "-", .text a, .text b => some (TextOperation.remove b a)
  | "-", .text a, .char b => some (TextOperation.remove (String.singleton b) a)
  | "+", .list a, .list b => some (.list (a ++ b))
  | "+", .map a, .map b => some (.map (b.foldl (fun es e => Entries.insert e.1 e.2 es) a))
  | "&", .bool a, .bool b => some (.bool (a && b))
  | "|", .bool a, .bool b => some (.bool (a || b))
  | "^", .bool a, .bool b => some (.bool (a != b))
  | _, _, _ => none

/-- A binary operator, if there is one for the two values. -/
def binaryOperator (name : String) (x y : Value) : Option (Except Fault Value) :=
  match comparison name x y with
  | some r => some (r.map .bool)
  | none =>
    match x, y with
    | .int a, .int b => Arithmetic.ofIntegers name a b
    | .float a, .float b => (Arithmetic.ofDoubles name a b).map .ok
    | .int a, .float b => (Arithmetic.ofDoubles name (Double.ofInt a) b).map .ok
    | .float a, .int b => (Arithmetic.ofDoubles name a (Double.ofInt b)).map .ok
    | x, y => (joined name x y).map .ok

/-- A unary operator, if there is one for the value. -/
def unaryOperator (name : String) (x : Value) : Option (Except Fault Value) :=
  match name, x with
  | "-", .int i => some (Arithmetic.checked .negationOverflow (-i))
  | "-", .float f => some (.ok (.float f.neg))
  | "+", .int i => some (.ok (.int i))
  | "+", .float f => some (.ok (.float f))
  | "!", .bool b => some (.ok (.bool !b))
  | _, _ => none

/-- What an operator does on the way of an assignment: a list takes another list or a single value. -/
def assigned (name : String) (x y : Value) : Option (Except Fault Value) :=
  match name, x, y with
  | "+", .list items, .list others => some (.ok (.list (items ++ others)))
  | "+", .list items, item => some (.ok (.list (items ++ [item])))
  | _, _, _ => binaryOperator name x y

end PlaceholderScripts.Script
