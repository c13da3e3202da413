import HttpDispatch.ConfigError
import HttpDispatch.Json.Printer
import HttpDispatch.Logging.Settings
import HttpDispatch.Text.Numeral

/-!
# Configuration

What an application may configure, with the values that hold otherwise, and the
overrides that the environment may give.

## Main definitions

* `Config` — the sections of a configuration
* `Config.check` — the rules between values
* `Config.override` — apply the environment
* `Config.text` — a configuration as JSON text
-/

namespace HttpDispatch

/-- **The negotiation section.** -/
structure NegotiationSettings where
  /-- Media types by extension. -/
  extensions : SortedMap String
  /-- The extension of the default translator. -/
  defaultExtension : Option String
  deriving DecidableEq, Inhabited

/-- The built-in translators under their own extensions, and no default. -/
def NegotiationSettings.default : NegotiationSettings where
  extensions := .ofList
    [("json", "application/json"), ("xml", "application/xml"), ("txt", "text/plain")]
  defaultExtension := none

/-- **The throttle section.** -/
structure ThrottleSettings where
  /-- Requests for each second; no limit if absent. -/
  maxRequestsPerSecond : Option Nat
  /-- How long a request may wait, in milliseconds. -/
  acquireTimeoutMs : Nat
  deriving DecidableEq, Repr, Inhabited

/-- No limit, and a fifth of a second. -/
def ThrottleSettings.default : ThrottleSettings := ⟨none, 200⟩

/-- **A configuration.** -/
structure Config where
  /-- The translators. -/
  negotiation : NegotiationSettings
  /-- The rate limit. -/
  throttle : ThrottleSettings
  /-- The path of the not-found route. -/
  notFoundPath : String
  /-- The log. -/
  logging : LoggingSettings
  deriving DecidableEq, Inhabited

namespace Config

/-- The path of the not-found route unless configured. -/
def defaultNotFoundPath : String := "/404"

/-- **What holds unless something else is configured.** -/
def default : Config := ⟨.default, .default, defaultNotFoundPath, .default⟩

/-- **Check the rules between values**: a limit is not zero, and the path of the
not-found route starts with a slash. -/
def check (c : Config) : Except ConfigError Config :=
  if c.throttle.maxRequestsPerSecond = some 0 then
    .error (.invalidValue "throttle.max_requests_per_second" "0")
  else if c.notFoundPath.toList.head? ≠ some '/' then
    .error (.invalidValue "not_found_path" c.notFoundPath)
  else .ok c

/-! ### Overrides from the environment -/

/-- A number in the environment; blanks around it are ignored. -/
def number (bits : Nat) (key raw : String) : Except ConfigError Nat :=
  match Numeral.unsigned? bits (Text.trim raw.toList) with
  | some n => .ok n
  | none => .error (.invalidValue key raw)

/-- Override the rate; zero means no limit. -/
def overrideRate (c : Config) : Option String → Except ConfigError Config
  | none => .ok c
  | some raw => do
    let rate ← number 32 "BRRTD_THROTTLE_RPS" raw
    return { c with throttle.maxRequestsPerSecond := if rate = 0 then none else some rate }

/-- Override the time that a request may wait. -/
def overrideTimeout (c : Config) : Option String → Except ConfigError Config
  | none => .ok c
  | some raw => do
    let timeout ← number 64 "BRRTD_THROTTLE_TIMEOUT_MS" raw
    return { c with throttle.acquireTimeoutMs := timeout }

/-- Override the default extension; leading dots do not count, and nothing else
means no default. -/
def overrideExtension (c : Config) : Option String → Config
  | none => c
  | some raw =>
    let extension := (Text.trim raw.toList).dropWhile (· = '.')
    { c with negotiation.defaultExtension :=
        if extension = [] then none else some (String.ofList extension) }

/-- Override the level of the log. -/
def overrideLevel (c : Config) : Option String → Config
  | none => c
  | some level => { c with logging.level := level }

/-- Override the format of the log. -/
def overrideFormat (c : Config) : Option String → Config
  | none => c
  | some format => { c with logging.format := .parse format }

/-- **Apply the environment**, and check the result. -/
def override (c : Config) (lookup : String → Option String) : Except ConfigError Config := do
  let c ← c.overrideRate (lookup "BRRTD_THROTTLE_RPS")
  let c ← c.overrideTimeout (lookup "BRRTD_THROTTLE_TIMEOUT_MS")
  let c := c.overrideExtension (lookup "BRRTD_DEFAULT_EXTENSION")
  let c := c.overrideLevel (lookup "BRRTD_LOG_LEVEL")
  let c := c.overrideFormat (lookup "BRRTD_LOG_FORMAT")
  c.check

/-! ### As JSON text -/

/-- The text of an object whose members stay in the given order. -/
def record (members : List (String × List Char)) : List Char :=
  let member (m : String × List Char) : List Char := Json.quote m.1 ++ ':' :: m.2
  '\x7b' :: (List.intercalate [','] (members.map member)) ++ ['\x7d']

/-- An optional value, null if absent. -/
def orNull {α : Type} (toJson : α → Json) : Option α → List Char
  | none => Json.null.write
  | some a => (toJson a).write

/-- **A configuration as JSON text**, in the order of declaration. -/
def text (c : Config) : String :=
  String.ofList (record
    [("negotiation", record
      [("extensions", (Json.object (c.negotiation.extensions.entries.map fun (extension, type) =>
          (extension, .string type))).write),
        ("default_extension", orNull .string c.negotiation.defaultExtension)]),
      ("throttle", record
      [("max_requests_per_second",
          orNull (fun n : Nat => .ofInt n) c.throttle.maxRequestsPerSecond),
        ("acquire_timeout_ms", (Json.ofInt c.throttle.acquireTimeoutMs).write)]),
      ("not_found_path", Json.quote c.notFoundPath),
      ("logging", record
      [("level", Json.quote c.logging.level),
        ("format", Json.quote c.logging.format.name),
        ("target_filter", orNull .string c.logging.targetFilter),
        ("include_location", (Json.bool c.logging.includeLocation).write)])])

end Config

end HttpDispatch
