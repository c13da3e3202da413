/-!
# What can be wrong with JSON text

`Json.ParseError.Kind` lists the causes and knows their wording; a `ParseError`
adds the place, by line and by column in bytes.  Lines count from one, and the
column is the number of bytes read since the last line feed.
-/

namespace HttpDispatch.Json

namespace ParseError

/-- Why a text is not JSON. -/
inductive Kind where
  /-- The input ends inside a list. -/
  | unfinishedList
  /-- The input ends inside an object. -/
  | unfinishedObject
  /-- The input ends inside a text. -/
  | unfinishedString
  /-- The input ends where a value has to stand. -/
  | unfinishedValue
  /-- A key is not followed by a colon. -/
  | expectedColon
  /-- A list item is followed by neither a comma nor the end. -/
  | expectedListEnd
  /-- An object member is followed by neither a comma nor the end. -/
  | expectedObjectEnd
  /-- A word other than the three constants. -/
  | expectedWord
  /-- Something that starts no value. -/
  | expectedValue
  /-- A backslash before something that is no escape. -/
  | invalidEscape
  /-- A malformed number. -/
  | invalidNumber
  /-- A number above the largest double. -/
  | numberOutOfRange
  /-- A text whose bytes are not UTF-8. -/
  | invalidUnicode
  /-- A control character inside a text. -/
  | controlCharacter
  /-- A key that is not a text. -/
  | keyNotString
  /-- Half of a surrogate pair. -/
  | loneSurrogate
  /-- A comma before the end of a list or object. -/
  | trailingComma
  /-- Something after the value. -/
  | trailingCharacters
  /-- The first half of a surrogate pair not followed by an escape. -/
  | unfinishedEscape
  /-- Lists and objects nested too deeply. -/
  | nestedTooDeeply
  deriving DecidableEq, Repr

/-- The wording of a cause. -/
def Kind.message : Kind → String
  | unfinishedList => "EOF while parsing a list"
  | unfinishedObject => "EOF while parsing an object"
  | unfinishedString => "EOF while parsing a string"
  | unfinishedValue => "EOF while parsing a value"
  | expectedColon => "expected `:`"
  | expectedListEnd => "expected `,` or `]`"
  | expectedObjectEnd => "expected `,` or `\x7d`"
  | expectedWord => "expected ident"
  | expectedValue => "expected value"
  | invalidEscape => "invalid escape"
  | invalidNumber => "invalid number"
  | numberOutOfRange => "number out of range"
  | invalidUnicode => "invalid unicode code point"
  | controlCharacter =>
    "control character (\\u0000-\\u001F) found while parsing a string"
  | keyNotString => "key must be a string"
  | loneSurrogate => "lone leading surrogate in hex escape"
  | trailingComma => "trailing comma"
  | trailingCharacters => "trailing characters"
  | unfinishedEscape => "unexpected end of hex escape"
  | nestedTooDeeply => "recursion limit exceeded"

end ParseError

/-- Why and where a text is not JSON. -/
structure ParseError where
  /-- The cause. -/
  kind : ParseError.Kind
  /-- The line, from one. -/
  line : Nat
  /-- The bytes read since the line began. -/
  column : Nat
  deriving DecidableEq, Repr

/-- The wording of an error. -/
def ParseError.message (e : ParseError) : String :=
  e.kind.message ++ " at line " ++ toString e.line ++ " column " ++ toString e.column

end HttpDispatch.Json
