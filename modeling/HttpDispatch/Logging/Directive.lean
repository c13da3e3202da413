import HttpDispatch.Logging.FieldValue
import HttpDispatch.Text.Alphabetic
import HttpDispatch.Text.Blank
import HttpDispatch.Text.Case
import HttpDispatch.Text.Numeral
import HttpDispatch.Text.Numeric
import HttpDispatch.Text.Split

/-!
# Filter directives of a log

A filter is a list of directives.  Each sets a level, for all events or for those
of a target, of a span, or of spans with given fields:

* `debug` and `4` — a level for everything;
* `server=warn` — a level for a target; `server` alone enables every level;
* `server[request]=warn` and `[request]=warn` — a level inside a span, whose fields may
  be told, too, with or without a value.

The directives of a filter are listed from the most to the least specific one: by
the length of the target, whether there is a span, and the number of fields, then
by their text.  Adding a directive replaces one for the same events.  Directives
that need a span or the value of a field come after all others.
-/

namespace HttpDispatch

/-- How much is logged. -/
inductive Verbosity where
  /-- Nothing. -/
  | off
  /-- Errors. -/
  | error
  /-- Warnings, too. -/
  | warn
  /-- Information, too. -/
  | info
  /-- Details, too. -/
  | debug
  /-- Everything. -/
  | trace
  deriving DecidableEq, Repr, Inhabited

namespace Verbosity

/-- All levels, by number. -/
def all : List Verbosity := [off, error, warn, info, debug, trace]

/-- The name of a level. -/
def name : Verbosity → String
  | off => "off"
  | error => "error"
  | warn => "warn"
  | info => "info"
  | debug => "debug"
  | trace => "trace"

/-- The level with a name or a number, names in any letter case. -/
def parse? (s : String) : Option Verbosity :=
  match Numeral.unsigned? 64 s.toList with
  | some n => all[n]?
  | none => all.find? fun v => v.name = Text.lower s

end Verbosity

namespace Logging

/-- A field that a span has to have, and the value that it has to have. -/
structure FieldMatch where
  /-- The name of the field. -/
  name : String
  /-- Its value, if that matters. -/
  value : Option FieldValue
  deriving DecidableEq, Repr

/-- **A directive.** -/
structure Directive where
  /-- The target of the events it is for. -/
  target : Option String
  /-- The span that they are in. -/
  span : Option String
  /-- The fields of that span. -/
  fields : List FieldMatch
  /-- The level. -/
  level : Verbosity
  deriving DecidableEq, Repr

namespace Directive

/-- A level for everything. -/
def ofLevel (level : Verbosity) : Directive := ⟨none, none, [], level⟩

/-! ### Reading -/

/-- Read a field that a span has to have.  Its value ends at a second equals sign. -/
def parseField? (cs : List Char) : Option FieldMatch :=
  match Text.split '=' cs with
  | name :: value :: _ => (FieldValue.parse? value).map fun v => ⟨String.ofList name, some v⟩
  | _ => if cs = [] then none else some ⟨String.ofList cs, none⟩

/-- Read the level after the equal sign; nothing there enables everything. -/
def parseLevel? (cs : List Char) : Option Verbosity :=
  if cs = [] then some .trace else Verbosity.parse? (String.ofList cs)

/-- Read what follows the closing bracket. -/
def parseAfterSpan? (d : Directive) : List Char → Option Directive
  | [] => some d
  | '=' :: level => (parseLevel? level).map fun level => { d with level }
  | _ => none

/-- Read what follows the opening brace: one field, and both closing signs. -/
def parseFields? (d : Directive) (cs : List Char) : Option Directive := do
  let (field, rest) ← Text.cut? '\x7d' cs
  let field ← parseField? field
  match rest with
  | ']' :: rest => parseAfterSpan? { d with fields := [field] } rest
  | _ => none

/-- Read what follows the opening bracket.  It has to be closed. -/
def parseSpan? (target : Option String) (cs : List Char) : Option Directive :=
  let span := cs.takeWhile fun c => c ≠ ']' && c ≠ '\x7b'
  let d : Directive := ⟨target, none, [], .trace⟩
  match cs.drop span.length with
  | [] => none
  | ']' :: rest => parseAfterSpan? { d with span := some (String.ofList span) } rest
  | _ :: rest =>
    parseFields? { d with span := if span = [] then none else some (String.ofList span) } rest

/-- Whether a directive may start with a character, a bracket apart. -/
def startsTarget (c : Char) : Bool :=
  c ∈ ['-', ':', '_'] || Text.isAlphabetic c || Text.isNumeric c

/-- **Read a directive.** -/
def parse? (cs : List Char) : Option Directive :=
  match cs with
  | [] => none
  | '[' :: rest => parseSpan? none rest
  | c :: _ =>
    if !startsTarget c then none
    else
      let head := cs.takeWhile fun c => c ≠ '=' && c ≠ '['
      let name := String.ofList head
      match cs.drop head.length with
      | [] => match Verbosity.parse? name with
        | some level => some (ofLevel level)
        | none => some ⟨some name, none, [], .trace⟩
      | '=' :: level => (parseLevel? level).map fun level => ⟨some name, none, [], level⟩
      | _ :: rest => parseSpan? (some name) rest

/-! ### Order and text -/

/-- Whether a directive can be decided without looking at spans. -/
def isStatic (d : Directive) : Bool := d.span.isNone && d.fields.all fun f => f.value.isNone

/-- The order of what may be absent, which comes first. -/
def compareOptional {α : Type} (order : α → α → Ordering) : Option α → Option α → Ordering
  | none, none => .eq
  | none, some _ => .lt
  | some _, none => .gt
  | some a, some b => order a b

/-- The order of fields: those without a value first, then by name and value. -/
def compareField (a b : FieldMatch) : Ordering :=
  ((compare a.value.isSome.toNat b.value.isSome.toNat).then (compare a.name b.name)).then
    (compareOptional FieldValue.order a.value b.value)

/-- The order of lists of fields. -/
def compareFields : List FieldMatch → List FieldMatch → Ordering
  | [], [] => .eq
  | [], _ :: _ => .lt
  | _ :: _, [] => .gt
  | a :: as, b :: bs => (compareField a b).then (compareFields as bs)

/-- One more than the length of a target, nothing for none. -/
def targetWeight (d : Directive) : Nat := (d.target.map fun t => t.utf8ByteSize + 1).getD 0

/-- **How specific directives are**, the less specific one first. -/
def compareSpecificity (a b : Directive) : Ordering :=
  (((((compare a.targetWeight b.targetWeight).then
    (compare a.span.isSome.toNat b.span.isSome.toNat)).then
    (compare a.fields.length b.fields.length)).then
    (compareOptional compare a.target b.target)).then
    (compareOptional compare a.span b.span)).then
    (compareFields a.fields b.fields)

/-- The text of a field. -/
def fieldText (f : FieldMatch) : String := match f.value with
  | none => f.name
  | some value => f.name ++ "=" ++ value.text

/-- The text of the span and the fields of a directive. -/
def spanText (d : Directive) : String :=
  if d.span.isNone && d.fields.isEmpty then ""
  else "[" ++ d.span.getD "" ++
    (if d.fields.isEmpty then ""
      else "\x7b" ++ ",".intercalate (d.fields.map fieldText) ++ "\x7d") ++ "]"

/-- **The text of a directive.** -/
def text (d : Directive) : String :=
  let scope := d.target.getD "" ++ d.spanText
  if d.target.isNone && d.spanText = "" then d.level.name else scope ++ "=" ++ d.level.name

end Directive

/-- Put a directive in its place, replacing one for the same events. -/
def insertDirective (d : Directive) : List Directive → List Directive
  | [] => [d]
  | e :: rest =>
    match Directive.compareSpecificity d e with
    | .gt => d :: e :: rest
    | .eq => d :: rest
    | .lt => e :: insertDirective d rest

/-- **A filter**: the directives from the most to the least specific one. -/
structure Filter where
  /-- Directives that need no span. -/
  statics : List Directive
  /-- Directives that need one. -/
  dynamics : List Directive
  deriving DecidableEq, Repr

namespace Filter

/-- A filter of a level for everything. -/
def ofLevel (level : Verbosity) : Filter := ⟨[.ofLevel level], []⟩

/-- Add a directive. -/
def add (f : Filter) (d : Directive) : Filter :=
  if d.isStatic then { f with statics := insertDirective d f.statics }
  else { f with dynamics := insertDirective d f.dynamics }

/-- **Add directives separated by commas**; those that cannot be read are skipped. -/
def addText (f : Filter) (directives : String) : Filter :=
  (((Text.split ',' directives.toList).map Text.trim).filterMap Directive.parse?).foldl add f

/-- The text of a filter. -/
def text (f : Filter) : String := ",".intercalate ((f.statics ++ f.dynamics).map Directive.text)

end Filter

end Logging

end HttpDispatch
