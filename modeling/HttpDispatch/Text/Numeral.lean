/-!
# Integer numerals

A numeral is a non-empty run of ASCII digits, after at most one sign.  There are
no blanks, no separators and no digits of other scripts.  An unsigned numeral
may carry a plus sign but no minus sign, not even before zero.

`unsigned?` and `signed?` take the width in bits and refuse what does not fit.
`inBase?` reads the digits of other bases, up to sixteen, in either letter case.
-/

namespace HttpDispatch.Numeral

/-- Whether a character is an ASCII digit. -/
def isDigit (c : Char) : Bool := '0' ≤ c && c ≤ '9'

/-- The value of an ASCII digit. -/
def digitValue (c : Char) : Nat := c.toNat - '0'.toNat

/-- The value of a run of digits after `acc`. -/
def digitsFrom (acc : Nat) (cs : List Char) : Nat :=
  cs.foldl (fun n c => 10 * n + digitValue c) acc

/-- The value of a run of digits. -/
def digitsValue (cs : List Char) : Nat := digitsFrom 0 cs

/-- **A run of digits**, at least one. -/
def natural? (cs : List Char) : Option Nat :=
  if cs ≠ [] ∧ cs.all isDigit then some (digitsValue cs) else none

/-- **An unsigned numeral** of at most `bits` bits. -/
def unsigned? (bits : Nat) (cs : List Char) : Option Nat := do
  let n ← natural? (match cs with
    | '+' :: rest => rest
    | _ => cs)
  if n < Nat.pow 2 bits then some n else none

/-- **A signed numeral** that fits in `bits` bits, two's complement. -/
def signed? (bits : Nat) (cs : List Char) : Option Int := do
  let z : Int ← match cs with
    | '-' :: rest => (natural? rest).map fun n => -(n : Int)
    | '+' :: rest => (natural? rest).map Int.ofNat
    | _ => (natural? cs).map Int.ofNat
  if -(Nat.pow 2 (bits - 1) : Int) ≤ z ∧ z < Nat.pow 2 (bits - 1) then some z else none

/-! ### Other bases -/

/-- The value of a digit in a base up to sixteen. -/
def digitIn? (base : Nat) (c : Char) : Option Nat :=
  let value? : Option Nat :=
    if '0' ≤ c ∧ c ≤ '9' then some (c.toNat - '0'.toNat)
    else if 'a' ≤ c ∧ c ≤ 'f' then some (c.toNat - 'a'.toNat + 10)
    else if 'A' ≤ c ∧ c ≤ 'F' then some (c.toNat - 'A'.toNat + 10)
    else none
  value?.filter (· < base)

/-- **A run of digits in a base**, at least one. -/
def inBase? (base : Nat) (cs : List Char) : Option Nat :=
  if cs = [] then none
  else (cs.mapM (digitIn? base)).map fun values => values.foldl (fun n v => base * n + v) 0

end HttpDispatch.Numeral
