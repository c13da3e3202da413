/-!
# Binary floating point, exactly

A finite binary floating-point number is an integer significand times a power of
two.  `Dyadic` holds the two, and a `BinaryFormat` says which pairs a format
has.  Everything is exact arithmetic on natural numbers; no machine float is
involved, so equal inputs give equal results and proofs can compute.

* `BinaryFormat.round` — the fraction `num / den` rounded to the nearest number
  of the format, a tie going to the even significand; `none` above the largest.
* `BinaryFormat.times`, `BinaryFormat.dividedBy` — product and quotient, rounded once.
* `Dyadic.code` — the position of a number among the non-negative numbers of the
  format, in ascending order.  It is also the number's bit pattern.

`Binary64` adds a sign, and is what documents and arguments hold.
-/

namespace HttpDispatch

/-- The number `significand · 2 ^ exponent`. -/
structure Dyadic where
  /-- The integer in front. -/
  significand : Nat
  /-- The power of two. -/
  exponent : Int
  deriving DecidableEq, Repr, Inhabited

namespace Dyadic

/-- Numerator of the number as a fraction. -/
def num (x : Dyadic) : Nat := x.significand * Nat.pow 2 x.exponent.toNat

/-- Denominator of the number as a fraction. -/
def den (x : Dyadic) : Nat := Nat.pow 2 (-x.exponent).toNat

end Dyadic

/-- A binary format: how many bits a significand has, and which exponents occur. -/
structure BinaryFormat where
  /-- The bits of a significand. -/
  precision : Nat
  /-- The exponent of the numbers near zero. -/
  minExponent : Int
  /-- The exponent of the largest numbers. -/
  maxExponent : Int
  deriving DecidableEq, Repr

/-- Single precision. -/
def binary32 : BinaryFormat := ⟨24, -149, 104⟩

/-- Double precision. -/
def binary64 : BinaryFormat := ⟨53, -1074, 971⟩

/-- **The integer nearest to `num / den`**, a tie going to the even one. -/
def roundQuotient (num den : Nat) : Nat :=
  let q := num / den
  let r := num % den
  if 2 * r < den then q else if den < 2 * r then q + 1 else q + q % 2

/-- The fraction `(num / den) / 2 ^ e`. -/
def scaleDown (num den : Nat) (e : Int) : Nat × Nat :=
  (num * Nat.pow 2 (-e).toNat, den * Nat.pow 2 e.toNat)

namespace BinaryFormat

/-- The zero of a format. -/
def zero (f : BinaryFormat) : Dyadic := ⟨0, f.minExponent⟩

/-- The exponent at which `num / den` is rounded: the one that fills the
significand, and never below the least. -/
def exponentFor (f : BinaryFormat) (num den : Nat) : Int :=
  if num = 0 then f.minExponent
  else
    let guess : Int := num.log2 - den.log2 - f.precision
    let (n, d) := scaleDown num den guess
    max f.minExponent (if n / d < Nat.pow 2 f.precision then guess else guess + 1)

/-- **Round `num / den`** to the nearest number of the format, a tie going to the
even significand; `none` if that lies above the largest. -/
def round (f : BinaryFormat) (num den : Nat) : Option Dyadic :=
  let e := f.exponentFor num den
  let (n, d) := scaleDown num den e
  let m := roundQuotient n d
  let x : Dyadic := if m = Nat.pow 2 f.precision then ⟨m / 2, e + 1⟩ else ⟨m, e⟩
  if f.maxExponent < x.exponent then none else some x

/-- The product, rounded once. -/
def times (f : BinaryFormat) (x y : Dyadic) : Option Dyadic :=
  f.round (x.num * y.num) (x.den * y.den)

/-- The quotient, rounded once. -/
def dividedBy (f : BinaryFormat) (x y : Dyadic) : Option Dyadic :=
  f.round (x.num * y.den) (x.den * y.num)

/-- **The bit pattern** of a non-negative number of the format, which is also its
position in ascending order. -/
def code (f : BinaryFormat) (x : Dyadic) : Nat :=
  x.significand + (x.exponent - f.minExponent).toNat * Nat.pow 2 (f.precision - 1)

end BinaryFormat

/-- A finite double-precision number.  Zero has two signs. -/
structure Binary64 where
  /-- Whether the sign is minus. -/
  negative : Bool
  /-- The absolute value, a number of `binary64`. -/
  magnitude : Dyadic
  deriving DecidableEq, Repr, Inhabited

namespace Binary64

/-- The nearest double to an integer of at most 64 bits. -/
def ofInt (z : Int) : Binary64 :=
  ⟨z < 0, (binary64.round z.natAbs 1).getD binary64.zero⟩

end Binary64

end HttpDispatch
