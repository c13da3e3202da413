import HttpDispatch.Json.Basic
import HttpDispatch.Text.Blank

/-!
# Request identifiers

An identifier has 128 bits: a time in milliseconds in the upper 48, and a random
part below.  Its text has 26 digits of five bits each, most significant first,
over an alphabet of the ten digits and the letters without `I`, `L`, `O` and `U`.

### Design notes

**Two bits too many.**  26 digits hold 130 bits.  Reading keeps the lower 128 of
them, so the first digit counts modulo eight; printing therefore starts with a
digit below eight.

**Letter case.**  Letters are read in either case and printed in upper case.
-/

namespace HttpDispatch

/-- **An identifier of a request.** -/
structure RequestId where
  /-- The bits as a number. -/
  code : Nat
  /-- There are 128 of them. -/
  bound : code < Nat.pow 2 128
  deriving DecidableEq, Repr

namespace RequestId

instance : Inhabited RequestId := ⟨⟨0, by decide⟩⟩

instance : Ord RequestId := ⟨fun a b => compare a.code b.code⟩

/-- The number of digits in a text. -/
def textLength : Nat := 26

/-- The digits, by value. -/
def alphabet : List Char := "0123456789ABCDEFGHJKMNPQRSTVWXYZ".toList

/-- The digit with a value. -/
def digit (value : Nat) : Char := alphabet.getD value '0'

/-- The value of a digit, letters in either case. -/
def digitValue? (c : Char) : Option Nat := alphabet.idxOf? c.toUpper

/-- Why a text is no identifier. -/
inductive Error where
  /-- It does not have the length of one. -/
  | invalidLength
  /-- It holds a character that is no digit. -/
  | invalidCharacter
  deriving DecidableEq, Repr

/-- The wording of an error. -/
def Error.message : Error → String
  | invalidLength => "invalid length"
  | invalidCharacter => "invalid character"

/-- The number of bytes of a text. -/
def byteLength (cs : List Char) : Nat := cs.foldl (fun n c => n + c.utf8Size) 0

/-- The number that digits stand for, most significant first. -/
def ofDigits (values : List Nat) : Nat := values.foldl (fun code v => 32 * code + v) 0

/-- A digit at the end adds its value to thirty-two times the number before it. -/
theorem ofDigits_concat (values : List Nat) (v : Nat) :
    ofDigits (values ++ [v]) = 32 * ofDigits values + v := by
  simp [ofDigits]

/-- Keep the lower 128 bits of a number. -/
def ofCode (code : Nat) : RequestId := ⟨code % Nat.pow 2 128, Nat.mod_lt _ (by decide)⟩

/-- **Read an identifier** on characters.  The length is counted in bytes and
checked first. -/
def parseChars (cs : List Char) : Except Error RequestId :=
  if byteLength cs ≠ textLength then .error .invalidLength
  else match cs.mapM digitValue? with
    | none => .error .invalidCharacter
    | some values => .ok (ofCode (ofDigits values))

/-- **Read an identifier.** -/
def parse (s : String) : Except Error RequestId := parseChars s.toList

/-- The lowest `count` digits of a number. -/
def digits : Nat → Nat → List Char
  | 0, _ => []
  | count + 1, code => digits count (code / 32) ++ [digit (code % 32)]

@[simp] theorem length_digits (count code : Nat) : (digits count code).length = count := by
  induction count generalizing code with
  | zero => rfl
  | succ count ih => simp [digits, ih]

/-- **The text of an identifier**: 26 digits. -/
def text (id : RequestId) : String := String.ofList (digits textLength id.code)

instance : ToString RequestId := ⟨text⟩

/-- The milliseconds since the epoch. -/
def timestamp (id : RequestId) : Nat := id.code / Nat.pow 2 80

/-- The identifier as a JSON value. -/
def toJson (id : RequestId) : Json := .string id.text

/-- The identifier that a JSON value holds. -/
def ofJson? : Json → Option RequestId
  | .string s => (parse s).toOption
  | _ => none

/-- The name of the header that carries an identifier. -/
def headerName : String := "x-request-id"

/-- **The identifier in a header**; blanks around it are ignored. -/
def ofHeader? (header : Option String) : Option RequestId :=
  header.bind fun value => (parse (Text.trimmed value)).toOption

end RequestId

end HttpDispatch
