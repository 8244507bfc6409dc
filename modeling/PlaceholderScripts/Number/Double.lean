import PlaceholderScripts.Number.Power

/-!
# Double precision numbers

A double is its sixty-four bits, so that equality of doubles is decided on the representation and
never on the arithmetic: `-0.0` and `0.0` are different values here, and not a number equals itself.
Comparison as numbers is a function of its own. The reading of a quotient of naturals as the nearest
double is exact integer arithmetic.
-/

namespace PlaceholderScripts

/-- A number of the format binary64. -/
structure Double where
  bits : UInt64
  deriving DecidableEq, Repr, Inhabited

namespace Double

def ofFloat (x : Float) : Double := ⟨x.toBits⟩

def toFloat (d : Double) : Float := Float.ofBits d.bits

/-- The sign bit: set for negative numbers and for `-0.0`. -/
def isNegative (d : Double) : Bool := d.bits.toNat ≥ 2 ^ 63

def magnitudeBits (d : Double) : Nat := d.bits.toNat % 2 ^ 63

def exponentField (d : Double) : Nat := d.magnitudeBits / 2 ^ 52

def fractionField (d : Double) : Nat := d.magnitudeBits % 2 ^ 52

def isNaN (d : Double) : Bool := d.magnitudeBits > 2047 * 2 ^ 52

def isInfinite (d : Double) : Bool := d.magnitudeBits == 2047 * 2 ^ 52

def isFinite (d : Double) : Bool := d.exponentField < 2047

def isZero (d : Double) : Bool := d.magnitudeBits == 0

/-- The integer `m` of the magnitude `m · 2 ^ q`. -/
def mantissa (d : Double) : Nat :=
  if d.exponentField = 0 then d.fractionField else 2 ^ 52 + d.fractionField

/-- The exponent `q` of the magnitude `m · 2 ^ q`. -/
def scale (d : Double) : Int := (max d.exponentField 1 : Nat) - 1075

def ofMagnitude (negative : Bool) (magnitude : Nat) : Double :=
  ⟨UInt64.ofNat (magnitude + if negative then 2 ^ 63 else 0)⟩

def infinity (negative : Bool) : Double := ofMagnitude negative (2047 * 2 ^ 52)

def nan : Double := ⟨0x7ff8000000000000⟩

def neg (d : Double) : Double := ofMagnitude (!d.isNegative) d.magnitudeBits

def abs (d : Double) : Double := ofMagnitude false d.magnitudeBits

/-- `n / d` rounded to the nearest integer, a tie to the even one. -/
def roundDiv (n d : Nat) : Nat :=
  let q := n / d
  let twice := 2 * (n % d)
  if twice > d || (twice == d && q % 2 == 1) then q + 1 else q

/-- The double nearest to `± num / den`, a tie to the even mantissa. -/
def ofRatio (negative : Bool) (num den : Nat) : Double :=
  if num = 0 then ofMagnitude negative 0 else
  -- a first exponent that is right or one too high
  let guess : Int := (Nat.log2 num : Int) - Nat.log2 den - 52
  let scaled (e : Int) : Nat × Nat :=
    if e ≥ 0 then (num, den * 2 ^ e.toNat) else (num * 2 ^ (-e).toNat, den)
  let fits (e : Int) : Bool := let (n, d) := scaled e; n / d ≥ 2 ^ 52
  let e : Int := max (if fits guess then guess else guess - 1) (-1074)
  let (n, d) := scaled e
  let magnitude := (e + 1074).toNat * 2 ^ 52 + roundDiv n d
  if magnitude ≥ 2047 * 2 ^ 52 then infinity negative else ofMagnitude negative magnitude

/-- The double nearest to `± digits · 10 ^ exponent`. Exponents beyond every double are settled
first, which keeps the powers of ten small. -/
def ofDecimal (negative : Bool) (digits : Nat) (exponent : Int) : Double :=
  if digits = 0 then ofMagnitude negative 0 else
  let order : Int := (Nat.toDigits 10 digits).length + exponent
  if order > 310 then infinity negative
  else if order < -330 then ofMagnitude negative 0
  else if exponent ≥ 0 then ofRatio negative (digits * 10 ^ exponent.toNat) 1
  else ofRatio negative digits (10 ^ (-exponent).toNat)

def ofInt (i : Int) : Double := ofRatio (i < 0) i.natAbs 1

/-- The number's integer part, toward zero; zero for numbers that are not finite. -/
def truncate (d : Double) : Int :=
  if !d.isFinite then 0 else
  let n : Nat :=
    if d.scale ≥ 0 then d.mantissa * 2 ^ d.scale.toNat else d.mantissa / 2 ^ (-d.scale).toNat
  if d.isNegative then -(n : Int) else n

def add (a b : Double) : Double := ofFloat (a.toFloat + b.toFloat)

def sub (a b : Double) : Double := ofFloat (a.toFloat - b.toFloat)

def mul (a b : Double) : Double := ofFloat (a.toFloat * b.toFloat)

def div (a b : Double) : Double := ofFloat (a.toFloat / b.toFloat)

/-- The remainder of the division toward zero, with the sign of the dividend, computed exactly. -/
def rem (a b : Double) : Double :=
  if a.isNaN || b.isNaN || a.isInfinite || b.isZero then nan
  else if b.isInfinite || a.isZero then a
  else
    let low := min a.scale b.scale
    let m := a.mantissa * 2 ^ (a.scale - low).toNat
    let n := b.mantissa * 2 ^ (b.scale - low).toNat
    let r := m % n
    if low ≥ 0 then ofRatio a.isNegative (r * 2 ^ low.toNat) 1
    else ofRatio a.isNegative r (2 ^ (-low).toNat)

def pow (a b : Double) : Double := ofFloat (Float.pow a.toFloat b.toFloat)

/-- A key that orders doubles as numbers; both zeros have the key zero. -/
def orderKey (d : Double) : Int := if d.isNegative then -(d.magnitudeBits : Int) else d.magnitudeBits

/-- Equality as numbers: the zeros are equal and not a number equals nothing. -/
def numEq (a b : Double) : Bool := !a.isNaN && !b.isNaN && a.orderKey == b.orderKey

def numLt (a b : Double) : Bool := !a.isNaN && !b.isNaN && a.orderKey < b.orderKey

end Double

end PlaceholderScripts
