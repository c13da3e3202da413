import HttpDispatch.Logging.Regex
import HttpDispatch.Number.Shortest

/-!
# Values that a log filter asks for

A filter may ask for the value of a field.  What is written decides the type of value
that is meant: a truth value, an unsigned or a signed integer, a floating-point number,
or else a text that matches a regular expression.

Values are ordered by type and then within it, so that equal ones can be found: truth
values first, then numbers with a point, what is not a number, unsigned and signed
integers, and expressions by their text.  Both zeros with a point are equal.
-/

namespace HttpDispatch.Logging

/-- A value that a field has to have. -/
inductive FieldValue where
  /-- A truth value. -/
  | truth (b : Bool)
  /-- A finite floating-point number. -/
  | real (x : Binary64)
  /-- An infinite one. -/
  | infinite (negative : Bool)
  /-- What is not a number. -/
  | nan
  /-- An integer without a minus sign. -/
  | natural (n : Nat)
  /-- An integer with a minus sign. -/
  | integer (z : Int)
  /-- A text that matches a regular expression. -/
  | matching (regex : String)
  deriving DecidableEq, Repr

namespace FieldValue

/-! ### Reading -/

/-- The value of a floating-point text.  Beyond the largest number lies infinity. -/
def ofFloatText : FloatText → FieldValue
  | .nan => nan
  | .infinite negative => infinite negative
  | .finite negative d =>
    match binary64.ofDecimal d with
    | some x => real ⟨negative, x⟩
    | none => infinite negative

/-- The value of a text that is a number or a truth value. -/
def simple? (cs : List Char) : Option FieldValue :=
  if cs = "true".toList then some (truth true)
  else if cs = "false".toList then some (truth false)
  else match Numeral.unsigned? 64 cs, Numeral.signed? 64 cs with
    | some n, _ => some (natural n)
    | none, some z => some (integer z)
    | none, none => (FloatText.parse? cs).map ofFloatText

/-- **Read a value**; what is no number and no truth value has to be a regular
expression. -/
def parse? (cs : List Char) : Option FieldValue :=
  match simple? cs with
  | some v => some v
  | none => if Regex.isValid cs then some (matching (String.ofList cs)) else none

/-! ### Order -/

/-- The place of a type among the types. -/
def rank : FieldValue → Nat
  | truth _ => 0
  | real _ => 1
  | infinite _ => 1
  | nan => 2
  | natural _ => 3
  | integer _ => 4
  | matching _ => 5

/-- The place of a value among those of its type, texts apart. -/
def place : FieldValue → Int
  | truth b => b.toNat
  | real x =>
    let code : Int := binary64.code x.magnitude
    if x.negative then -code else code
  | infinite negative =>
    let code : Int := binary64.code ⟨Nat.pow 2 (binary64.precision - 1), binary64.maxExponent + 1⟩
    if negative then -code else code
  | nan => 0
  | natural n => n
  | integer z => z
  | matching _ => 0

/-- The text of an expression, nothing for other values. -/
def regex : FieldValue → String
  | matching regex => regex
  | _ => ""

/-- **The order of values.** -/
def order (a b : FieldValue) : Ordering :=
  ((compare a.rank b.rank).then (compare a.place b.place)).then (compare a.regex b.regex)

/-! ### Text -/

/-- A decimal without exponent, and with a point only if digits follow it. -/
def decimalText (d : Decimal) : List Char :=
  let digits := Nat.toDigits 10 d.digits
  if 0 ≤ d.exponent then digits ++ List.replicate d.exponent.toNat '0'
  else Layout.positional digits d.order

/-- The text of a floating-point number. -/
def realText (x : Binary64) : String :=
  let digits :=
    if x.magnitude.significand = 0 then ['0'] else decimalText (shortest x.magnitude)
  String.ofList (if x.negative then '-' :: digits else digits)

/-- **The text of a value.** -/
def text : FieldValue → String
  | truth b => if b then "true" else "false"
  | real x => realText x
  | infinite negative => if negative then "-inf" else "inf"
  | nan => "NaN"
  | natural n => toString n
  | integer z => toString z
  | matching regex => regex

end FieldValue

end HttpDispatch.Logging
