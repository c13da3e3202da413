import HttpDispatch.Json.Basic
import HttpDispatch.Number.Decimal
import HttpDispatch.Text.Quoted

/-!
# Schemas of arguments

What a handler expects of an argument: a scalar of some kind, an object with
declared fields, or a list.

## Main definitions

* `ScalarKind.coerce` — the value that a raw text has as a scalar of a kind
* `Schema` — the shape of a structured argument
* `Schema.emptyValue` — the value that a shape starts from

## Design notes

**A `float` keeps its decimal.**  Single precision only decides whether a
`float` is finite; the value that the handler sees is the double nearest to the
text, so `0.1` stays `0.1`.

**Fields are sorted.**  An object schema lists its fields in ascending order of
their names, and a name declared twice has its last schema.
-/

namespace HttpDispatch

/-- The kinds of scalars. -/
inductive ScalarKind where
  /-- Any text, as it is. -/
  | string
  /-- An integer of 32 bits. -/
  | integer
  /-- An integer of 64 bits. -/
  | long
  /-- A number that is finite in single precision. -/
  | float
  /-- A number that is finite in double precision. -/
  | double
  deriving DecidableEq, Repr

/-- Why a text is no scalar of a kind. -/
inductive CoercionError where
  /-- It does not have the form of one. -/
  | malformed (kind : ScalarKind) (raw : String)
  /-- It is not a number, or too large. -/
  | notFinite (kind : ScalarKind) (raw : String)
  deriving DecidableEq, Repr

namespace ScalarKind

/-- The name of a kind. -/
def name : ScalarKind → String
  | string => "string"
  | integer => "integer"
  | long => "long"
  | float => "float"
  | double => "double"

instance : ToString ScalarKind := ⟨name⟩

/-- A number of the given format, kept as a double. -/
def coerceReal (kind : ScalarKind) (format : BinaryFormat) (raw : String) :
    Except CoercionError Json :=
  match FloatText.parse? raw.toList with
  | none => .error (.malformed kind raw)
  | some (.finite negative value) =>
    match format.ofDecimal value, binary64.ofDecimal value with
    | some _, some x => .ok (.number (.double ⟨negative, x⟩))
    | _, _ => .error (.notFinite kind raw)
  | some _ => .error (.notFinite kind raw)

/-- An integer of the given width. -/
def coerceInt (kind : ScalarKind) (bits : Nat) (raw : String) : Except CoercionError Json :=
  match Numeral.signed? bits raw.toList with
  | some n => .ok (Json.ofInt n)
  | none => .error (.malformed kind raw)

/-- **The value of a raw text** as a scalar of a kind. -/
def coerce (kind : ScalarKind) (raw : String) : Except CoercionError Json :=
  match kind with
  | string => .ok (.string raw)
  | integer => kind.coerceInt 32 raw
  | long => kind.coerceInt 64 raw
  | float => kind.coerceReal binary32 raw
  | double => kind.coerceReal binary64 raw

@[simp] theorem coerce_string (raw : String) : coerce string raw = .ok (.string raw) := rfl

end ScalarKind

/-- The wording of a coercion error. -/
def CoercionError.message : CoercionError → String
  | malformed kind raw => "'" ++ raw ++ "' is not a valid " ++ kind.name
  | notFinite kind raw => "'" ++ raw ++ "' is not a finite " ++ kind.name

/-- The shape of a structured argument. -/
inductive Schema where
  /-- A scalar. -/
  | scalar (kind : ScalarKind)
  /-- An object with these fields, names ascending. -/
  | object (fields : List (String × Schema))
  /-- A list of items of one shape. -/
  | list (item : Schema)
  deriving Repr, Inhabited

namespace Schema

/-- **An object with some fields**; of equal names the last one counts. -/
def ofFields (fields : List (String × Schema)) : Schema := object (Entries.ofList fields)

/-- **The shape of an uploaded file**: where it was stored, its name, its type. -/
def uploadedFile : Schema :=
  ofFields [("file", scalar .string), ("originalFilename", scalar .string),
    ("contentType", scalar .string)]

/-- The value that a shape starts from: null, an empty object or an empty list. -/
def emptyValue : Schema → Json
  | scalar _ => .null
  | object _ => .object []
  | list _ => .array []

end Schema

/-- How a description shows a kind. -/
def ScalarKind.inspect : ScalarKind → String
  | string => "String"
  | integer => "Integer"
  | long => "Long"
  | float => "Float"
  | double => "Double"

namespace Schema

mutual

/-- **A description of a shape.** -/
def inspect : Schema → String
  | scalar kind => "Scalar(" ++ kind.inspect ++ ")"
  | object fields => "Object(" ++ Text.mapping (inspectFields fields) ++ ")"
  | list item => "List(" ++ inspect item ++ ")"

/-- Descriptions of fields. -/
def inspectFields : List (String × Schema) → List (String × String)
  | [] => []
  | (name, schema) :: rest => (Text.quoted name, inspect schema) :: inspectFields rest

end

end Schema

end HttpDispatch
