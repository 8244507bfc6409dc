import PlaceholderScripts.Number.Double

/-!
# The shortest decimal that reads back

Every finite positive double is `m · 2 ^ q` and stands for the interval of reals nearer to it than to
its neighbours, ends included when `m` is even. Its shortest decimal is the one with the fewest
digits inside that interval, of two such the nearer. How the digits are then laid out, positional or
with an exponent, is a choice of each written format and is described by a `Layout`.
-/

namespace PlaceholderScripts.Shortest

/-- The decimal `digits · 10 ^ exponent`. -/
structure Decimal where
  digits : Nat
  exponent : Int
  deriving Repr, DecidableEq

def digitCount (n : Nat) : Nat := (Nat.toDigits 10 n).length

/-- A positive rational between two others: `low / den ≤ value / den ≤ high / den`. -/
structure Interval where
  low : Nat
  value : Nat
  high : Nat
  den : Nat
  closed : Bool

/-- The reals that round to `m · 2 ^ q`; `lowest` marks the least mantissa of its exponent, below
which the doubles lie twice as close. -/
def Interval.around (m : Nat) (q : Int) (lowest : Bool) : Interval :=
  let low := if lowest then 4 * m - 1 else 4 * m - 2
  let up (n : Nat) := if q ≥ 0 then n * 2 ^ q.toNat else n
  ⟨up low, up (4 * m), up (4 * m + 2), if q ≥ 0 then 4 else 4 * 2 ^ (-q).toNat, m % 2 == 0⟩

/-- Whether `n / d` lies in the interval. -/
def Interval.holds (i : Interval) (n d : Nat) : Bool :=
  let x := n * i.den
  if i.closed then i.low * d ≤ x && x ≤ i.high * d else i.low * d < x && x < i.high * d

/-- The least `k` with `value / den < 10 ^ k`. -/
def Interval.order (i : Interval) : Int :=
  if i.value ≥ i.den then digitCount (i.value / i.den)
  else 1 - (digitCount (i.den / i.value) : Int)

/-- The decimal with `count` digits in the interval that is nearest to its value, if there is one:
one of the value's two neighbours on the grid of such decimals. -/
def Interval.atDigits (i : Interval) (order : Int) (count : Nat) : Option Decimal :=
  let e : Int := order - count
  let (n, d) := if e ≥ 0 then (i.value, i.den * 10 ^ e.toNat) else (i.value * 10 ^ (-e).toNat, i.den)
  let below := n / d
  let inside (g : Nat) : Bool :=
    if e ≥ 0 then i.holds (g * 10 ^ e.toNat) 1 else i.holds g (10 ^ (-e).toNat)
  let twice := 2 * (n % d)
  let upFirst := twice > d || (twice == d && below % 2 == 1)
  let order := if upFirst then [below + 1, below] else [below, below + 1]
  (order.find? fun g => g > 0 && inside g).map fun g => ⟨g, e⟩

/-- The first count of digits, from `count` on, that has a decimal in the interval. -/
def Interval.search (i : Interval) (order : Int) (count : Nat) : Nat → Decimal
  | 0 => ⟨i.value / i.den, 0⟩
  | tries + 1 => (i.atDigits order count).getD (i.search order (count + 1) tries)

/-- The same number without trailing zeros in its digits; zero is left alone. -/
def Decimal.trimZeros (d : Decimal) : Nat → Decimal
  | 0 => d
  | tries + 1 =>
    if d.digits ≠ 0 && d.digits % 10 == 0 then
      Decimal.trimZeros ⟨d.digits / 10, d.exponent + 1⟩ tries
    else d

/-- The shortest decimal that reads back as the magnitude of a finite double other than zero. -/
def ofDouble (d : Double) : Decimal :=
  let i := Interval.around d.mantissa d.scale (d.fractionField == 0 && d.exponentField > 1)
  (i.search i.order 1 17).trimZeros 20

structure Layout where
  /-- The powers of ten, as in scientific notation, that are written without an exponent. -/
  positional : Int → Bool
  /-- Whether whole positional numbers end in `.0`. -/
  pointZero : Bool
  /-- Whether a negative zero keeps its sign. -/
  signedZero : Bool
  nan : String
  infinity : String

/-- `digits · 10 ^ exponent` without an exponent. -/
def positionalText (d : Decimal) (pointZero : Bool) : List Char :=
  let ds := Nat.toDigits 10 d.digits
  if d.exponent ≥ 0 then
    ds ++ List.replicate d.exponent.toNat '0' ++ (if pointZero then ['.', '0'] else [])
  else
    let places := (-d.exponent).toNat
    if ds.length > places then
      ds.take (ds.length - places) ++ '.' :: ds.drop (ds.length - places)
    else '0' :: '.' :: List.replicate (places - ds.length) '0' ++ ds

/-- One digit, the other digits behind a point, and the power of ten. -/
def scientificText (d : Decimal) (power : Int) : List Char :=
  let ds := Nat.toDigits 10 d.digits
  let rest := ds.drop 1
  ds.take 1 ++ (if rest.isEmpty then [] else '.' :: rest) ++
    'e' :: (if power < 0 then ['-'] else []) ++ Nat.toDigits 10 power.natAbs

/-- The text of a number in a layout. -/
def Layout.text (layout : Layout) (x : Double) : List Char :=
  let sign := if x.isNegative && (!x.isZero || layout.signedZero) then ['-'] else []
  if x.isNaN then layout.nan.toList
  else if x.isInfinite then sign ++ layout.infinity.toList
  else if x.isZero then sign ++ (if layout.pointZero then "0.0" else "0").toList
  else
    let d := ofDouble x
    let power : Int := digitCount d.digits + d.exponent - 1
    sign ++ if layout.positional power then positionalText d layout.pointZero
      else scientificText d power

end PlaceholderScripts.Shortest
