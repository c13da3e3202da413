import HttpDispatch.Path
import HttpDispatch.SortedMap

/-!
# Path patterns

A route is declared by a template such as `/products/⟨id⟩`, written with braces
around the variable names.  A template is cut at slashes, and each piece is a
`Segment`:

* `literal` — no brace at all; matches an equal path segment only;
* `capture` — a braced name and nothing else; binds the whole path segment;
* `affixed` — a braced name with text before or after it; binds what remains
  between the two texts.

A bound value is never empty, and a pattern matches only paths with as many
segments as it has.

### Design decisions

**Faults are values.**  `Pattern.Fault` names what is wrong with a template and
carries the text that shows it; `Pattern.Error.message` alone knows the wording.
Faults are found from left to right: a segment is read before it is checked for
a repeated name, and the first fault wins.

**The text is kept.**  A compiled pattern stores the normal form of its template
beside the segments, since routes are told apart by that text.
-/

namespace HttpDispatch

/-- One piece of a compiled template. -/
inductive Segment where
  /-- Matches exactly this text. -/
  | literal (text : String)
  /-- Binds a whole path segment to `name`. -/
  | capture (name : String)
  /-- Binds what stands between `lead` and `tail` to `name`. -/
  | affixed (lead name tail : String)
  deriving DecidableEq, Repr

/-- Values bound to variable names, in template order. -/
abbrev Bindings := List (String × String)

namespace Pattern

/-- What can be wrong with a template. -/
inductive Fault where
  /-- A brace is opened and not closed in this segment. -/
  | unterminatedVariable (segment : String)
  /-- A brace stands where none may in this segment. -/
  | unexpectedBrace (segment : String)
  /-- A variable has this (empty) name. -/
  | invalidVariableName (name : String)
  /-- A variable name is used twice. -/
  | duplicateVariable (name : String)
  /-- The template does not start with a slash. -/
  | notAbsolute
  deriving DecidableEq, Repr

/-- A template that is not a pattern, with its fault. -/
structure Error where
  /-- The template as it was written. -/
  template : String
  /-- What is wrong with it. -/
  fault : Fault
  deriving DecidableEq, Repr

/-- The wording of a fault. -/
def Fault.message : Fault → String
  | .unterminatedVariable segment => "unterminated variable in segment '" ++ segment ++ "'"
  | .unexpectedBrace segment => "unexpected brace in segment '" ++ segment ++ "'"
  | .invalidVariableName name => "invalid variable name '" ++ name ++ "'"
  | .duplicateVariable name => "duplicate variable '" ++ name ++ "'"
  | .notAbsolute => "must start with '/'"

/-- The wording of an error. -/
def Error.message (e : Error) : String :=
  "malformed pattern '" ++ e.template ++ "': " ++ e.fault.message

end Pattern

namespace Segment

/-- Whether a segment is plain text. -/
def isLiteral : Segment → Bool
  | literal _ => true
  | _ => false

/-- The variable that a segment binds. -/
def name? : Segment → Option String
  | literal _ => none
  | capture name => some name
  | affixed _ name _ => some name

/-- **Read one segment of a template.**  The first opening brace and the first
closing brace after it delimit the name; no other brace may stand in the
segment, and the name may not be empty. -/
def parse (raw : String) : Except Pattern.Fault Segment :=
  match Text.cut? '{' raw.toList with
  | none =>
    if '}' ∈ raw.toList then .error (.unexpectedBrace raw) else .ok (literal raw)
  | some (lead, rest) =>
    match Text.cut? '}' rest with
    | none => .error (.unterminatedVariable raw)
    | some (name, tail) =>
      if '}' ∈ lead ∨ '{' ∈ name ∨ '{' ∈ tail ∨ '}' ∈ tail then
        .error (.unexpectedBrace raw)
      else if name = [] then
        .error (.invalidVariableName (String.ofList name))
      else if lead = [] ∧ tail = [] then
        .ok (capture (String.ofList name))
      else
        .ok (affixed (String.ofList lead) (String.ofList name) (String.ofList tail))

/-- **Match one path segment**, giving what it binds. -/
def bind? : Segment → String → Option Bindings
  | literal text, value => if text = value then some [] else none
  | capture name, value => if value = "" then none else some [(name, value)]
  | affixed lead name tail, value => do
    let rest ← lead.toList.isPrefixOf? value.toList
    let middle ← tail.toList.isSuffixOf? rest
    if middle = [] then none else some [(name, String.ofList middle)]

end Segment

/-- A compiled template. -/
structure Pattern where
  /-- The template in normal form. -/
  text : String
  /-- Its segments, in order. -/
  segments : List Segment
  deriving DecidableEq, Repr

namespace Pattern

/-- **Read the segments of a template**, given the variable names used so far. -/
def parseSegments (used : List String) : List String → Except Fault (List Segment)
  | [] => .ok []
  | raw :: raws => do
    let segment ← Segment.parse raw
    match segment.name? with
    | none => return segment :: (← parseSegments used raws)
    | some name =>
      if name ∈ used then .error (.duplicateVariable name)
      else return segment :: (← parseSegments (name :: used) raws)

/-- **Compile a template.**  It has to start with a slash; one trailing slash is
dropped before its segments are read.  An error shows the template as given. -/
def compile (template : String) : Except Error Pattern :=
  if template.toList.head? ≠ some '/' then .error ⟨template, .notAbsolute⟩
  else
    let text := Path.normalize template
    match parseSegments [] (Path.segments text) with
    | .error fault => .error ⟨template, fault⟩
    | .ok segments => .ok ⟨text, segments⟩

/-- The number of segments. -/
def segmentCount (p : Pattern) : Nat := p.segments.length

/-- The number of literal segments: the more, the more specific the pattern. -/
def literalCount (p : Pattern) : Nat := p.segments.countP Segment.isLiteral

/-- The variable names, in template order. -/
def variableNames (p : Pattern) : List String := p.segments.filterMap Segment.name?

/-- **Match segment by segment**; both lists have to end together. -/
def bindSegments? : List Segment → List String → Option Bindings
  | [], [] => some []
  | segment :: segments, value :: values => do
    let bound ← segment.bind? value
    let rest ← bindSegments? segments values
    return bound ++ rest
  | _, _ => none

/-- **Match a path** in its normal form, giving the values of the variables in
template order. -/
def bind? (p : Pattern) (path : String) : Option Bindings :=
  bindSegments? p.segments (Path.segments (Path.normalize path))

/-- **Match a path**, giving the values of the variables by name. -/
def bindMap? (p : Pattern) (path : String) : Option (SortedMap String) :=
  (p.bind? path).map .ofList

instance : ToString Pattern := ⟨Pattern.text⟩

end Pattern

end HttpDispatch
