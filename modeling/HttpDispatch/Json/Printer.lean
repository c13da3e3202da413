import HttpDispatch.Json.Basic
import HttpDispatch.Number.Shortest

/-!
# JSON text

The compact form: no blanks, members in key order.  Inside a text the quote, the
backslash and the control characters below the space are escaped and nothing
else; the five controls that have a letter are written by letter.

`Json.numberLayout` fixes the form of doubles: with a point and at least one
digit after it when the first digit stands between the fifth decimal place and
the sixteenth digit, otherwise with a signed exponent.
-/

namespace HttpDispatch

namespace Json

/-- **How doubles are written**: `0.00001` and `1000000000000000.0` are the
extremes of the form with a point, `1e-6` and `1e+16` their neighbours. -/
def numberLayout : Layout := ⟨-5, 16, true⟩

/-- Two lower-case hexadecimal digits. -/
def hexPair (n : Nat) : List Char := [Nat.digitChar (n / 16), Nat.digitChar (n % 16)]

/-- How one character is written between quotes. -/
def escapeChar (c : Char) : List Char :=
  if c = '"' then ['\\', '"']
  else if c = '\\' then ['\\', '\\']
  else if c = '\x08' then ['\\', 'b']
  else if c = '\t' then ['\\', 't']
  else if c = '\n' then ['\\', 'n']
  else if c = '\x0c' then ['\\', 'f']
  else if c = '\r' then ['\\', 'r']
  else if c.toNat < 0x20 then ['\\', 'u', '0', '0'] ++ hexPair c.toNat
  else [c]

/-- A text between quotes. -/
def quote (s : String) : List Char := '"' :: s.toList.flatMap escapeChar ++ ['"']

/-- The digits of an integer after its sign. -/
def writeInt (n : Int) : List Char :=
  if n < 0 then '-' :: Nat.toDigits 10 n.natAbs else Nat.toDigits 10 n.natAbs

end Json

/-- The text of a number. -/
def Number.write : Number → List Char
  | integer n => Json.writeInt n
  | double x => x.write Json.numberLayout

namespace Json

mutual

/-- **The compact text of a value**, as characters. -/
def write : Json → List Char
  | null => "null".toList
  | bool b => (if b then "true" else "false").toList
  | number n => n.write
  | string s => quote s
  | array items => '[' :: writeItems items ++ [']']
  | object members => '\x7b' :: writeMembers members ++ ['\x7d']

/-- Values with commas between them. -/
def writeItems : List Json → List Char
  | [] => []
  | [item] => write item
  | item :: next :: items => write item ++ ',' :: writeItems (next :: items)

/-- Members with commas between them. -/
def writeMembers : List (String × Json) → List Char
  | [] => []
  | [(key, value)] => quote key ++ ':' :: write value
  | (key, value) :: next :: members =>
    quote key ++ ':' :: write value ++ ',' :: writeMembers (next :: members)

end

/-- **The compact text of a value.** -/
def text (value : Json) : String := String.ofList value.write

end Json

end HttpDispatch
