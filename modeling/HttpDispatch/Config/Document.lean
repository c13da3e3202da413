import HttpDispatch.Config.Basic
import HttpDispatch.Yaml.Document

/-!
# Configuration documents

A configuration is written as a YAML mapping.  Sections and fields that are left
out have their default values, and unknown ones are ignored; a known field must
not be repeated.  A section without anything in it, and a document without any
node, count as empty mappings.

Texts may be written in any way, plain or quoted.  Numbers, truth values and the
absence of a value have to be plain, or to have a tag that says what they are.  Aliases
count as the nodes that they stand for.
-/

namespace HttpDispatch

namespace Config

open Yaml (Document Node)

/-- What is wrong with a document, in words. -/
abbrev Reading := Except String

/-- A node that is not what a field needs. -/
def unexpected {α : Type} (expected field : String) : Reading α :=
  throw (field ++ ": expected " ++ expected)

/-- The value of a reader that gives one. -/
def orUnexpected {α : Type} (expected field : String) : Option α → Reading α
  | some a => .ok a
  | none => unexpected expected field

/-- The text of a key. -/
def keyText (section? : String) (key : Node) : Reading String :=
  orUnexpected "text keys" section? key.text?

/-- **The fields of a section** of a document, with their names as texts. -/
def fields (d : Document) (name : String) (node : Node) : Reading (List (String × Node)) := do
  let entries ← orUnexpected "a mapping" name node.entries?
  entries.mapM fun (key, value) => return (← keyText name (d.resolve key), d.resolve value)

/-- **Read one field**, if it is there; it must not be repeated. -/
def field {α : Type} (entries : List (String × Node)) (name : String)
    (read : String → Node → Reading α) (default : α) : Reading α :=
  match entries.filter fun e => e.1 = name with
  | [] => .ok default
  | [(_, node)] => read name node
  | _ => throw ("duplicate field " ++ name)

/-! ### Readers of values -/

/-- A text, however written. -/
def readText (name : String) (node : Node) : Reading String :=
  orUnexpected "a text" name node.text?

/-- An unsigned number. -/
def readUnsigned (bits : Nat) (name : String) (node : Node) : Reading Nat :=
  orUnexpected "an unsigned number" name (node.unsigned? bits)

/-- A truth value. -/
def readBool (name : String) (node : Node) : Reading Bool :=
  orUnexpected "a truth value" name node.bool?

/-- A value that may be absent. -/
def readOptional {α : Type} (read : String → Node → Reading α) (name : String) (node : Node) :
    Reading (Option α) := do
  if ← orUnexpected "nothing" name node.isNull? then return none
  else return some (← read name node)

/-- The format of the log. -/
def readFormat (name : String) (node : Node) : Reading LogFormat :=
  orUnexpected "json or pretty" name
    (node.choice?.bind fun choice => [LogFormat.json, .pretty].find? (·.name = choice))

/-- Texts under keys; of equal keys the last one counts. -/
def readTexts (d : Document) (name : String) (node : Node) : Reading (SortedMap String) := do
  let entries ← fields d name node
  return .ofList (← entries.mapM fun (key, value) => return (key, ← readText key value))

/-! ### Sections -/

/-- The negotiation section. -/
def readNegotiation (d : Document) (name : String) (node : Node) : Reading NegotiationSettings := do
  let entries ← fields d name node
  return {
    extensions := ← field entries "extensions" (readTexts d) NegotiationSettings.default.extensions
    defaultExtension := ← field entries "default_extension" (readOptional readText) none }

/-- The throttle section. -/
def readThrottle (d : Document) (name : String) (node : Node) : Reading ThrottleSettings := do
  let entries ← fields d name node
  return {
    maxRequestsPerSecond :=
      ← field entries "max_requests_per_second" (readOptional (readUnsigned 32)) none
    acquireTimeoutMs := ← field entries "acquire_timeout_ms" (readUnsigned 64)
      ThrottleSettings.default.acquireTimeoutMs }

/-- The logging section. -/
def readLogging (d : Document) (name : String) (node : Node) : Reading LoggingSettings := do
  let entries ← fields d name node
  return {
    level := ← field entries "level" readText LoggingSettings.default.level
    format := ← field entries "format" readFormat LoggingSettings.default.format
    targetFilter := ← field entries "target_filter" (readOptional readText) none
    includeLocation := ← field entries "include_location" readBool false }

/-- **The configuration that a document holds.** -/
def ofDocument (d : Document) : Reading Config := do
  let entries ← fields d "document" (d.resolve d.root)
  return {
    negotiation := ← field entries "negotiation" (readNegotiation d) NegotiationSettings.default
    throttle := ← field entries "throttle" (readThrottle d) ThrottleSettings.default
    notFoundPath := ← field entries "not_found_path" readText defaultNotFoundPath
    logging := ← field entries "logging" (readLogging d) LoggingSettings.default }

/-- **Read a configuration** and check it. -/
def parse (document : String) : Except ConfigError Config :=
  match Document.parse document with
  | none => .error (.malformed "not a readable document")
  | some d =>
    match ofDocument d with
    | .error reason => .error (.malformed reason)
    | .ok c => c.check

/-- **The configuration in a file**, given its contents or why it cannot be read. -/
def ofFile (path : String) (contents : Except String String) : Except ConfigError Config :=
  match contents with
  | .error reason => .error (.unreadable path reason)
  | .ok document => parse document

end Config

end HttpDispatch
