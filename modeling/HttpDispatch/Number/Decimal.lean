import HttpDispatch.Number.Binary
import HttpDispatch.Text.Case
import HttpDispatch.Text.Numeral

/-!
# Decimal text of floating-point numbers

How the text of a `float` or `double` argument and of a quality value is read.

A **numeral** has an optional sign, then digits with at most one point among or
beside them, then an optional exponent: `e` or `E`, an optional sign, digits.
There is at least one digit before the exponent, and at least one in it.  After
an optional sign the words `inf`, `infinity` and `nan` are read too, in any
letter case.

The value is rounded **once**, from the exact decimal, to the format asked for.
-/

namespace HttpDispatch

/-- The number `digits · 10 ^ exponent`. -/
structure Decimal where
  /-- The integer in front. -/
  digits : Nat
  /-- The power of ten. -/
  exponent : Int
  deriving DecidableEq, Repr, Inhabited

/-- The number of decimal digits of an integer. -/
def digitCount (n : Nat) : Nat := (Nat.toDigits 10 n).length

namespace Decimal

/-- Numerator of the number as a fraction. -/
def num (d : Decimal) : Nat := d.digits * Nat.pow 10 d.exponent.toNat

/-- Denominator of the number as a fraction. -/
def den (d : Decimal) : Nat := Nat.pow 10 (-d.exponent).toNat

/-- The number is below `10 ^ order`, and at least a tenth of it unless zero. -/
def order (d : Decimal) : Int := digitCount d.digits + d.exponent

/-- Beyond this order of magnitude every supported format overflows, and below
its negative every one rounds to zero. -/
def orderLimit : Int := 400

end Decimal

/-- **Round a decimal** to a format; `none` above its largest number.  Numbers
beyond `Decimal.orderLimit` are decided by their order alone, so that a huge
exponent costs nothing. -/
def BinaryFormat.ofDecimal (f : BinaryFormat) (d : Decimal) : Option Dyadic :=
  if d.digits = 0 then some f.zero
  else if Decimal.orderLimit < d.order then none
  else if d.order < -Decimal.orderLimit then some f.zero
  else f.round d.num d.den

/-- What the text of a floating-point number says. -/
inductive FloatText where
  /-- Not a number. -/
  | nan
  /-- An infinity. -/
  | infinite (negative : Bool)
  /-- A decimal. -/
  | finite (negative : Bool) (value : Decimal)
  deriving DecidableEq, Repr

namespace FloatText

/-- An exponent: digits after an optional sign. -/
def exponent? : List Char → Option Int
  | '-' :: cs => (Numeral.natural? cs).map fun n => -(n : Int)
  | '+' :: cs => (Numeral.natural? cs).map Int.ofNat
  | cs => (Numeral.natural? cs).map Int.ofNat

/-- Digits with at most one point, then an optional exponent. -/
def decimal? (cs : List Char) : Option Decimal := do
  let whole := cs.takeWhile Numeral.isDigit
  let rest := cs.dropWhile Numeral.isDigit
  let (fraction, rest) := match rest with
    | '.' :: after => (after.takeWhile Numeral.isDigit, after.dropWhile Numeral.isDigit)
    | _ => ([], rest)
  if whole = [] ∧ fraction = [] then none
  else
    let power ← match rest with
      | [] => some 0
      | c :: after => if c = 'e' ∨ c = 'E' then exponent? after else none
    return ⟨Numeral.digitsValue (whole ++ fraction), power - fraction.length⟩

/-- A number without its sign. -/
def unsigned? (negative : Bool) (cs : List Char) : Option FloatText :=
  if Text.lowerChars cs = "nan".toList then some nan
  else if Text.lowerChars cs = "inf".toList ∨ Text.lowerChars cs = "infinity".toList then
    some (infinite negative)
  else (decimal? cs).map (finite negative)

/-- **Read the text of a floating-point number.** -/
def parse? : List Char → Option FloatText
  | '-' :: cs => unsigned? true cs
  | '+' :: cs => unsigned? false cs
  | cs => unsigned? false cs

end FloatText

end HttpDispatch
