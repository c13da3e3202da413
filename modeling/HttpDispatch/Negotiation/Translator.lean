import HttpDispatch.Completion
import HttpDispatch.Json.Printer
import HttpDispatch.Negotiation.Xml
import HttpDispatch.Text.Utf8

/-!
# Translators

A translator turns the value of a handler into the bytes of a response.  It has a
media type and a preferred extension.  Applications may bring translators of
their own, which may fail or panic; the three built-in ones always return.
-/

namespace HttpDispatch

/-- A value that a translator cannot encode. -/
structure TranslateError where
  /-- The media type of the translator. -/
  mediaType : String
  /-- Why it cannot. -/
  reason : String
  deriving DecidableEq, Repr

/-- The wording of an error. -/
def TranslateError.message (e : TranslateError) : String :=
  e.mediaType ++ " encoding failed: " ++ e.reason

/-- An encoding of values as bytes. -/
structure Translator where
  /-- The media type of what it writes. -/
  mediaType : String
  /-- The extension that asks for it. -/
  extension : String
  /-- The encoding. -/
  encode : Json → Completion (Except TranslateError (List UInt8))

namespace Translator

/-- A translator that always writes some text. -/
def ofText (mediaType extension : String) (write : Json → List Char) : Translator :=
  ⟨mediaType, extension, fun v => .returned (.ok (Utf8.encode (write v)))⟩

/-- **Compact JSON.** -/
def json : Translator := ofText "application/json" "json" Json.write

/-- **XML**, see `Xml.document`. -/
def xml : Translator := ofText "application/xml" "xml" Xml.document

/-- The plain text of a value: a text as it is, nothing for null, else JSON. -/
def plainText : Json → List Char
  | .string s => s.toList
  | .null => []
  | v => v.write

/-- **Plain text.** -/
def text : Translator := ofText "text/plain" "txt" plainText

/-- What went wrong with an encoding. -/
inductive Failure where
  /-- The translator refused the value. -/
  | refused (error : TranslateError)
  /-- The translator panicked. -/
  | panicked (payload : PanicPayload)
  deriving DecidableEq, Repr

/-- The wording of a failure. -/
def Failure.message : Failure → String
  | refused e => e.message
  | panicked payload => "translator panicked: " ++ payload.message

/-- **Encode a value**, a panic being one way to fail. -/
def run (t : Translator) (v : Json) : Except Failure (List UInt8) :=
  match t.encode v with
  | .returned (.ok bytes) => .ok bytes
  | .returned (.error e) => .error (.refused e)
  | .panicked payload => .error (.panicked payload)

end Translator

end HttpDispatch
