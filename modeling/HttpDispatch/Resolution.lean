import HttpDispatch.Arguments
import HttpDispatch.Json.Parser
import HttpDispatch.Parameter
import HttpDispatch.StructuredValue

/-!
# Resolving arguments

`resolve` turns the values of a request, one per key, into the arguments of a
handler, or reports everything that is wrong with them.  Three passes over the values
(`passes`) come before the last step.

1. **Simple and body parameters**, in order of declaration (`intake`).  A simple
   parameter consumes the key that equals its name.  An empty body counts as
   none.
2. **Attribution** (`distribute`).  Each structured parameter, in order, takes the
   keys that its name leads: the name itself, or the name followed by `.` or `[`.
   What follows the name, without that `.`, is the property path.
3. **The rest** (`settle`).  If no structured parameter was attributed anything
   and keys are left, a single structured parameter takes all of them, unless a
   simple parameter consumed something; with several it is a violation.
4. **Structured parameters** are built from their pairs (`fill`).

### Design notes

All violations are collected, in the order of these steps.  Pairs that a
structured value skips are no violations; they are reported beside the outcome,
also when resolution fails.
-/

namespace HttpDispatch

/-- Why a body cannot be read. -/
inductive BodyError where
  /-- It is not text. -/
  | notText (error : Utf8.Error)
  /-- It is not a JSON value. -/
  | notJson (error : Json.ParseError)
  deriving DecidableEq, Repr

/-- The wording of a body error. -/
def BodyError.message : BodyError → String
  | notText e => e.message
  | notJson e => e.message

/-- **Read a body.** -/
def BodyFormat.read (format : BodyFormat) (bytes : List UInt8) : Except BodyError Json :=
  match format with
  | .text => match Utf8.decode bytes with
    | .ok cs => .ok (.string (String.ofList cs))
    | .error e => .error (.notText e)
  | .json => match Json.parse bytes with
    | .ok v => .ok v
    | .error e => .error (.notJson e)

/-- What can be wrong with the values of a request. -/
inductive Violation where
  /-- A required parameter has no value. -/
  | missing (name : String)
  /-- The text of a simple parameter is no scalar of its kind. -/
  | invalidValue (name : String) (error : CoercionError)
  /-- The body cannot be read. -/
  | invalidBody (name : String) (error : BodyError)
  /-- No structured parameter leads any of these keys. -/
  | unattributed (keys names : List String)
  deriving DecidableEq, Repr

/-- The wording of a violation. -/
def Violation.message : Violation → String
  | missing name => "Missing param: " ++ name
  | invalidValue name e => "Invalid value for param '" ++ name ++ "': " ++ e.message
  | invalidBody name e => "Invalid body for param '" ++ name ++ "': " ++ e.message
  | unattributed keys names =>
    "Cannot attribute params [" ++ ", ".intercalate keys ++ "] to any of ["
      ++ ", ".intercalate names ++ "]"

/-- The wording of a failed validation. -/
def validationMessage (messages : List String) : String :=
  "parameter validation failed: " ++ ", ".intercalate messages

namespace Resolution

/-! ### Simple and body parameters -/

/-- A slot and the violation that filling it has caused. -/
structure Slot where
  /-- The value, if there is one. -/
  value : Option Json
  /-- What is wrong, if something is. -/
  violation : Option Violation
  deriving DecidableEq, Repr

namespace Slot

/-- An empty slot. -/
def empty : Slot := ⟨none, none⟩

/-- A filled slot. -/
def filled (v : Json) : Slot := ⟨some v, none⟩

/-- An empty slot with a violation. -/
def refused (v : Violation) : Slot := ⟨none, some v⟩

/-- The slot of a parameter without a value. -/
def absent (p : Parameter) : Slot := if p.required then refused (.missing p.name) else empty

end Slot

/-- The slot of a simple parameter with a raw text. -/
def simpleSlot (p : Parameter) (kind : ScalarKind) (raw : String) : Slot :=
  match kind.coerce raw with
  | .ok v => .filled v
  | .error e => .refused (.invalidValue p.name e)

/-- An empty body counts as none. -/
def sent (body : Option (List UInt8)) : Option (List UInt8) :=
  body.filter fun bytes => !bytes.isEmpty

/-- The slot of a body parameter. -/
def bodySlot (p : Parameter) (format : BodyFormat) : Option (List UInt8) → Slot
  | none => .absent p
  | some bytes => match format.read bytes with
    | .ok v => .filled v
    | .error e => .refused (.invalidBody p.name e)

/-- The state after the simple and body parameters. -/
structure Intake where
  /-- One slot per parameter; those of structured ones are still empty. -/
  slots : List Slot
  /-- The values that no simple parameter consumed. -/
  values : SortedMap String
  /-- Whether a simple parameter consumed a value. -/
  consumed : Bool

/-- **Fill the slots of simple and body parameters**, in order.  A value is
consumed by the first simple parameter of its name. -/
def intake (body : Option (List UInt8)) : List Parameter → SortedMap String → Intake
  | [], values => ⟨[], values, false⟩
  | p :: ps, values =>
    match p.source with
    | .simple kind =>
      match values.get? p.name with
      | some raw =>
        let rest := intake body ps (values.erase p.name)
        ⟨simpleSlot p kind raw :: rest.slots, rest.values, true⟩
      | none =>
        let rest := intake body ps values
        ⟨.absent p :: rest.slots, rest.values, rest.consumed⟩
    | .body format =>
      let rest := intake body ps values
      ⟨bodySlot p format body :: rest.slots, rest.values, rest.consumed⟩
    | .structured _ =>
      let rest := intake body ps values
      ⟨.empty :: rest.slots, rest.values, rest.consumed⟩

/-! ### Attribution -/

/-- The names of the structured parameters. -/
def structuredNames (parameters : List Parameter) : List String :=
  (parameters.filter Parameter.isStructured).map Parameter.name

/-- **The property path of a key** that `name` leads. -/
def relativePath? (name key : String) : Option String :=
  match name.toList.isPrefixOf? key.toList with
  | none => none
  | some [] => some ""
  | some ('.' :: path) => some (String.ofList path)
  | some ('[' :: path) => some (String.ofList ('[' :: path))
  | some _ => none

/-- The pairs of property path and text that one name takes. -/
def taken (name : String) (values : SortedMap String) : List (String × String) :=
  values.entries.filterMap fun (key, raw) => (relativePath? name key).map (·, raw)

/-- The values that a name leaves. -/
def left (name : String) (values : SortedMap String) : SortedMap String :=
  values.filterKeys fun key => (relativePath? name key).isNone

/-- **Attribute values to names**: each name in turn takes the keys it leads.
The result has the pairs of each name, and the values left over. -/
def distribute : List String → SortedMap String → List (List (String × String)) × SortedMap String
  | [], values => ([], values)
  | name :: names, values =>
    let (pairs, rest) := distribute names (left name values)
    (taken name values :: pairs, rest)

/-! ### The rest -/

/-- **What becomes of values that no name leads.**  They matter only if nothing at
all was attributed: then they all go to a single structured parameter, unless a
simple parameter consumed something, and cannot be attributed to several. -/
def settle (consumed : Bool) (names : List String) (pairs : List (List (String × String)))
    (rest : SortedMap String) : List (List (String × String)) × Option Violation :=
  if pairs.all List.isEmpty ∧ !rest.isEmpty then
    match names with
    | [] => (pairs, none)
    | [_] => if consumed then (pairs, none) else ([rest.entries], none)
    | _ => (pairs, some (.unattributed rest.keys names))
  else (pairs, none)

/-! ### All passes over the values -/

/-- What the passes over the values of a request leave behind. -/
structure Passes where
  /-- What the first pass does, over simple and body parameters. -/
  first : Intake
  /-- The pairs of each structured parameter. -/
  own : List (List (String × String))
  /-- The values that the name of no structured parameter leads. -/
  rest : SortedMap String
  /-- The violation that these are, if it is one. -/
  unattributed : Option Violation

/-- **Pass over the values of a request**: simple parameters consume theirs, structured ones are
attributed theirs, and the rest is settled. -/
def passes (values : SortedMap String) (parameters : List Parameter)
    (body : Option (List UInt8)) : Passes :=
  let first := intake (sent body) parameters values
  let names := structuredNames parameters
  let (led, rest) := distribute names first.values
  let (own, unattributed) := settle first.consumed names led rest
  ⟨first, own, rest, unattributed⟩

/-! ### Structured parameters -/

/-- The slot of a structured parameter. -/
def structuredSlot (p : Parameter) (schema : Schema) (pairs : List (String × String)) : Slot :=
  match StructuredValue.build schema pairs with
  | some v => .filled v
  | none => .absent p

/-- **Fill the slots of structured parameters**, whose pairs come in order. -/
def fill : List Parameter → List Slot → List (List (String × String)) → List Slot
  | p :: ps, slot :: slots, pairs =>
    match p.source, pairs with
    | .structured schema, own :: pairs => structuredSlot p schema own :: fill ps slots pairs
    | .structured schema, [] => structuredSlot p schema [] :: fill ps slots []
    | _, pairs => slot :: fill ps slots pairs
  | _, _, _ => []

/-- The pairs that structured parameters skip, in order. -/
def skippedPairs : List Parameter → List (List (String × String)) → List Skipped
  | [], _ => []
  | p :: ps, pairs =>
    match p.source, pairs with
    | .structured schema, own :: pairs =>
      StructuredValue.skipped p.name schema own ++ skippedPairs ps pairs
    | _, pairs => skippedPairs ps pairs

/-- The violations of the slots of some parameters. -/
def violations (keep : Parameter → Bool) (ps : List Parameter) (slots : List Slot) :
    List Violation :=
  (ps.zip slots).filterMap fun (p, slot) => if keep p then slot.violation else none

end Resolution

/-- The outcome of resolving arguments. -/
structure Resolution where
  /-- The arguments, or all violations. -/
  outcome : Except (List Violation) Arguments
  /-- The pairs that were skipped. -/
  skipped : List Skipped

open Resolution in
/-- **Resolve the arguments** of a handler from the values and the body of a
request. -/
def resolve (values : SortedMap String) (parameters : List Parameter)
    (body : Option (List UInt8)) : Resolution :=
  let passed := passes values parameters body
  let slots := fill parameters passed.first.slots passed.own
  let found := violations (fun p => !p.isStructured) parameters slots
    ++ passed.unattributed.toList ++ violations Parameter.isStructured parameters slots
  { outcome :=
      if found.isEmpty then
        .ok ⟨(parameters.zip slots).map fun (p, slot) => (p.name, slot.value)⟩
      else .error found
    skipped := skippedPairs parameters passed.own }

end HttpDispatch
