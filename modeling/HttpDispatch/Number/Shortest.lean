import HttpDispatch.Number.Decimal

/-!
# Shortest decimal text of a double

A double is written with the **fewest digits that read back** as the same
double; of several such texts the one nearest to its value is taken, and of two
equally near ones the one whose last digit is even.

All numbers that round to a given double lie in an interval around it, whose
ends belong to it iff the significand is even.  `shortest` looks for a decimal
in that interval on finer and finer grids: for one digit, two
digits and so on, the grid points next to the value on both sides are tested, in
exact arithmetic.  Seventeen digits always suffice.

`Layout` records how the digits are then written out.
-/

namespace HttpDispatch

/-- The positive double `value / den` and the interval of numbers that round to
it, over one denominator. -/
structure RoundingInterval where
  /-- Numerator of the lower end. -/
  low : Nat
  /-- Numerator of the double. -/
  value : Nat
  /-- Numerator of the upper end. -/
  high : Nat
  /-- The denominator of all three. -/
  den : Nat
  /-- Whether the ends belong to the interval. -/
  closed : Bool
  deriving Repr

namespace RoundingInterval

/-- **The interval of a positive double.**  The lower end is nearer if the
significand is a power of two with a smaller neighbour of the next exponent. -/
def ofDyadic (x : Dyadic) : RoundingInterval :=
  let below :=
    if x.significand = Nat.pow 2 (binary64.precision - 1) ∧ binary64.minExponent < x.exponent
    then 1 else 2
  let unit := Nat.pow 2 (x.exponent - 2).toNat
  { low := (4 * x.significand - below) * unit
    value := 4 * x.significand * unit
    high := (4 * x.significand + 2) * unit
    den := Nat.pow 2 (2 - x.exponent).toNat
    closed := x.significand % 2 = 0 }

/-- Whether the decimal `n · 10 ^ k` lies in the interval. -/
def holds (i : RoundingInterval) (n : Nat) (k : Int) : Bool :=
  let scaled := n * Nat.pow 10 k.toNat * i.den
  let unit := Nat.pow 10 (-k).toNat
  if i.closed then i.low * unit ≤ scaled && scaled ≤ i.high * unit
  else i.low * unit < scaled && scaled < i.high * unit

/-- **The best decimal on the grid of `10 ^ k`**: of the grid points next to the
value, the one in the interval; of two, the nearer; of two equally near, the
even one. -/
def onGrid? (i : RoundingInterval) (k : Int) : Option Decimal :=
  let unit := Nat.pow 10 k.toNat * i.den
  let scaled := i.value * Nat.pow 10 (-k).toNat
  let below := scaled / unit
  let remainder := scaled % unit
  let nearer :=
    if 2 * remainder < unit then below
    else if unit < 2 * remainder then below + 1
    else below + below % 2
  let other := if nearer = below then below + 1 else below
  if i.holds nearer k then some ⟨nearer, k⟩
  else if i.holds other k then some ⟨other, k⟩
  else none

/-- The value is below `10 ^ order` and at least a tenth of it. -/
def order (i : RoundingInterval) : Int :=
  let guess : Int := (digitCount i.value : Int) - digitCount i.den
  if i.den * Nat.pow 10 guess.toNat ≤ i.value * Nat.pow 10 (-guess).toNat then guess + 1 else guess

end RoundingInterval

/-- Drop zeros at the end of the digits. -/
def Decimal.trimZeros (d : Decimal) : Decimal :=
  let rec drop : Nat → Nat → Int → Decimal
    | 0, n, k => ⟨n, k⟩
    | fuel + 1, n, k => if n % 10 = 0 ∧ n ≠ 0 then drop fuel (n / 10) (k + 1) else ⟨n, k⟩
  drop (digitCount d.digits) d.digits d.exponent

/-- **The shortest decimal that reads back** as a positive double. -/
def shortest (x : Dyadic) : Decimal :=
  let i := RoundingInterval.ofDyadic x
  let found := (List.range 17).findSome? fun n => i.onGrid? (i.order - (n + 1 : Nat))
  (found.getD ⟨0, 0⟩).trimZeros

/-- How the digits of a double are written out. -/
structure Layout where
  /-- The least power of ten of the first digit that is written with a point. -/
  leastPositional : Int
  /-- The least power of ten of the first digit above that which is written with
  an exponent. -/
  leastScientific : Int
  /-- Whether a positive exponent carries a plus sign. -/
  plusSign : Bool
  deriving DecidableEq, Repr

namespace Layout

/-- Digits with a point, and at least one digit on both sides of it; the point
comes after `point` digits. -/
def positional (digits : List Char) (point : Int) : List Char :=
  if point ≤ 0 then "0.".toList ++ List.replicate (-point).toNat '0' ++ digits
  else if digits.length ≤ point.toNat then
    digits ++ List.replicate (point.toNat - digits.length) '0' ++ ".0".toList
  else digits.take point.toNat ++ '.' :: digits.drop point.toNat

/-- Digits with a point after the first, and an exponent. -/
def scientific (l : Layout) (digits : List Char) (power : Int) : List Char :=
  let mantissa := match digits with
    | first :: second :: rest => first :: '.' :: second :: rest
    | _ => digits
  let sign := if power < 0 then ['-'] else if l.plusSign then ['+'] else []
  mantissa ++ 'e' :: sign ++ Nat.toDigits 10 power.natAbs

/-- **Write a decimal** that is not zero. -/
def write (l : Layout) (d : Decimal) : List Char :=
  let digits := Nat.toDigits 10 d.digits
  let power := d.order - 1
  if l.leastPositional ≤ power ∧ power < l.leastScientific then positional digits d.order
  else l.scientific digits power

end Layout

/-- **Write a double**: its sign, then its shortest digits; zero is `0.0`. -/
def Binary64.write (l : Layout) (x : Binary64) : List Char :=
  let digits :=
    if x.magnitude.significand = 0 then "0.0".toList else l.write (shortest x.magnitude)
  if x.negative then '-' :: digits else digits

end HttpDispatch
