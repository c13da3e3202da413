import HttpDispatch.Text.Split
import HttpDispatch.Text.Utf8

/-!
# Form fields

Query strings and form bodies share one encoding, `application/x-www-form-urlencoded`.
The bytes are cut at every `&`, and empty pieces are skipped; a piece is cut at its
first `=` into name and value, and without one the value is empty.  In both parts a
plus sign stands for a space and `%` with two hexadecimal digits for a byte; any other
`%` stands for itself.
The resulting bytes are read as UTF-8, replacing what is not.
-/

namespace HttpDispatch.Form

/-- The value of a hexadecimal digit. -/
def hexValue? (b : UInt8) : Option UInt8 :=
  if 0x30 ≤ b ∧ b ≤ 0x39 then some (b - 0x30)
  else if 0x41 ≤ b ∧ b ≤ 0x46 then some (b - 0x41 + 10)
  else if 0x61 ≤ b ∧ b ≤ 0x66 then some (b - 0x61 + 10)
  else none

/-- **Undo the escapes** of a name or a value. -/
def unescape : List UInt8 → List UInt8
  | [] => []
  | 0x25 :: high :: low :: rest =>
    match hexValue? high, hexValue? low with
    | some h, some l => (h * 16 + l) :: unescape rest
    | _, _ => 0x25 :: unescape (high :: low :: rest)
  | b :: rest => (if b = 0x2B then 0x20 else b) :: unescape rest

/-- The text of a name or a value. -/
def decodeText (bytes : List UInt8) : String := String.ofList (Utf8.decodeLossy (unescape bytes))

/-- One field: its name and its value. -/
def field (piece : List UInt8) : String × String :=
  match Text.cut? 0x3D piece with
  | some (name, value) => (decodeText name, decodeText value)
  | none => (decodeText piece, "")

/-- **The fields of a form**, in order. -/
def fields (bytes : List UInt8) : List (String × String) :=
  ((Text.split 0x26 bytes).filter fun piece => !piece.isEmpty).map field

end HttpDispatch.Form
