import HttpDispatch.Text.Printable

/-!
# Quoted text

Diagnostic descriptions show a text between double quotes.  The quote and the
backslash get a backslash, the null, tab, line feed and carriage return are
written by letter, and any other character without a printed form as its code
point in lower-case hexadecimal.

The same module knows how a description shows a sequence and a record, so that
all descriptions of the library agree.
-/

namespace HttpDispatch.Text

/-- Lower-case hexadecimal digits, without leading zeros. -/
def hexText (n : Nat) : String := String.ofList (Nat.toDigits 16 n)

/-- How one character is shown between quotes. -/
def quoteChar (c : Char) : String :=
  if c = '\x00' then "\\0"
  else if c = '\t' then "\\t"
  else if c = '\n' then "\\n"
  else if c = '\r' then "\\r"
  else if c = '"' then "\\\""
  else if c = '\\' then "\\\\"
  else if isPrintable c then c.toString
  else "\\u\x7b" ++ hexText c.toNat ++ "\x7d"

/-- **A text between double quotes.** -/
def quoted (s : String) : String :=
  "\"" ++ String.join (s.toList.map quoteChar) ++ "\""

/-- A sequence in square brackets. -/
def sequence (xs : List String) : String := "[" ++ ", ".intercalate xs ++ "]"

/-- A mapping in braces. -/
def mapping (entries : List (String × String)) : String :=
  "\x7b" ++ ", ".intercalate (entries.map fun (k, v) => k ++ ": " ++ v) ++ "\x7d"

/-- A record: its type, and its fields in braces. -/
def record (type : String) (fields : List (String × String)) : String :=
  type ++ " \x7b " ++ ", ".intercalate (fields.map fun (k, v) => k ++ ": " ++ v) ++ " \x7d"

/-- An optional value. -/
def optional : Option String → String
  | none => "None"
  | some s => "Some(" ++ s ++ ")"

end HttpDispatch.Text
