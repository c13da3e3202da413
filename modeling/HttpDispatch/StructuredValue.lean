import HttpDispatch.PropertyPath
import HttpDispatch.Schema

/-!
# Building structured values

A structured argument is built from pairs of a property path and a raw text.
Every pair is checked before anything is written: its path has to parse, to lead
through the schema to a scalar, and its text has to be a scalar of that kind.  A
pair that fails is skipped with a warning, and a value exists only if some pair
was accepted.

## Main definitions

* `Schema.kindAt` — the scalar that a path leads to
* `Schema.assign` — write a leaf, creating what is missing on the way
* `StructuredValue.build` — all pairs, in order

A list grows to hold the index asked for, up to `maxIndex`; the items in between
start as empty values of the item's shape.
-/

namespace HttpDispatch

/-- The largest index of a list item. -/
def maxIndex : Nat := 1024

/-- Why a path leads to no scalar of a schema. -/
inductive WalkFault where
  /-- An object without this field. -/
  | noField (name : String)
  /-- An index above `maxIndex`. -/
  | indexTooLarge (position : Nat)
  /-- A field of something that is no object. -/
  | notAnObject (name : String)
  /-- An index into something that is no list. -/
  | notAList (position : Nat)
  /-- The path ends before it reaches a scalar. -/
  | notAScalar
  deriving DecidableEq, Repr

/-- The wording of a fault. -/
def WalkFault.message : WalkFault → String
  | noField name => "no property '" ++ name ++ "'"
  | indexTooLarge n => "index " ++ toString n ++ " exceeds " ++ toString maxIndex
  | notAnObject name => "'" ++ name ++ "' is not on an object"
  | notAList n => "[" ++ toString n ++ "] is not on a list"
  | notAScalar => "path does not end at a scalar"

namespace Schema

/-- **The kind of the scalar that steps lead to.** -/
def kindAt : Schema → List Step → Except WalkFault ScalarKind
  | scalar kind, [] => .ok kind
  | _, [] => .error .notAScalar
  | object fields, .field name :: steps =>
    match Entries.get? name fields with
    | none => .error (.noField name)
    | some schema => schema.kindAt steps
  | list item, .index n :: steps =>
    if maxIndex < n then .error (.indexTooLarge n) else item.kindAt steps
  | _, .field name :: _ => .error (.notAnObject name)
  | _, .index n :: _ => .error (.notAList n)

/-- Extend a list with empty items so that it has an item at `position`. -/
def grow (item : Schema) (position : Nat) (items : List Json) : List Json :=
  items ++ List.replicate (position + 1 - items.length) item.emptyValue

/-- **Write a leaf** at the place that steps lead to.  What does not exist yet
starts empty; steps that leave the schema change nothing. -/
def assign (leaf : Json) : Schema → List Step → Json → Json
  | _, [], _ => leaf
  | object fields, .field name :: steps, target =>
    match Entries.get? name fields with
    | none => target
    | some schema =>
      let members := match target with
        | .object members => members
        | _ => []
      let child := (Entries.get? name members).getD schema.emptyValue
      .object (Entries.insert name (assign leaf schema steps child) members)
  | list item, .index n :: steps, target =>
    let items := item.grow n (match target with
      | .array items => items
      | _ => [])
    let child := items.getD n item.emptyValue
    .array (items.set n (assign leaf item steps child))
  | _, _, target => target

end Schema

/-- Why a pair is skipped. -/
inductive SkipCause where
  /-- Its path does not parse. -/
  | unparseable (fault : PropertyPath.Fault)
  /-- Its path leads to no scalar. -/
  | unknown (fault : WalkFault)
  /-- Its text is no scalar of the kind. -/
  | invalid (error : CoercionError)
  deriving DecidableEq, Repr

/-- A pair that was skipped while a parameter was bound. -/
structure Skipped where
  /-- The parameter. -/
  parameter : String
  /-- The path of the pair, relative to the parameter. -/
  path : String
  /-- Why it was skipped. -/
  cause : SkipCause
  deriving DecidableEq, Repr

namespace SkipCause

/-- What happened, in words. -/
def title : SkipCause → String
  | unparseable _ => "Skipping unparseable property path"
  | unknown _ => "Skipping unknown property path"
  | invalid _ => "Skipping property with invalid value"

/-- Why it happened, in words. -/
def reason : SkipCause → String
  | unparseable fault => fault.message
  | unknown fault => fault.message
  | invalid error => error.message

end SkipCause

namespace StructuredValue

/-- **Check a pair**: the steps to its leaf and the value to write there. -/
def accept (schema : Schema) (path raw : String) : Except SkipCause (List Step × Json) :=
  match PropertyPath.parse path with
  | .error fault => .error (.unparseable fault)
  | .ok steps =>
    match schema.kindAt steps with
    | .error fault => .error (.unknown fault)
    | .ok kind =>
      match kind.coerce raw with
      | .error error => .error (.invalid error)
      | .ok leaf => .ok (steps, leaf)

/-- Write a pair if it is accepted; a value starts empty with its first leaf. -/
def put (schema : Schema) (value : Option Json) (path raw : String) : Option Json :=
  match accept schema path raw with
  | .error _ => value
  | .ok (steps, leaf) => some (schema.assign leaf steps (value.getD schema.emptyValue))

/-- **The value of some pairs**, or `none` if none of them is accepted. -/
def build (schema : Schema) (pairs : List (String × String)) : Option Json :=
  pairs.foldl (fun value (path, raw) => put schema value path raw) none

/-- The pairs that are skipped, with their causes. -/
def skipped (parameter : String) (schema : Schema) (pairs : List (String × String)) :
    List Skipped :=
  pairs.filterMap fun (path, raw) =>
    match accept schema path raw with
    | .error cause => some ⟨parameter, path, cause⟩
    | .ok _ => none

@[simp] theorem build_nil (schema : Schema) : build schema [] = none := rfl

end StructuredValue

end HttpDispatch
