import HttpDispatch.Logging.Directive

/-!
# Logging settings

The level, the format and the extra directives of the log.
-/

namespace HttpDispatch

/-- The format of the log. -/
inductive LogFormat where
  /-- For machines. -/
  | json
  /-- For people. -/
  | pretty
  deriving DecidableEq, Repr, Inhabited

/-- The name of a format. -/
def LogFormat.name : LogFormat → String
  | json => "json"
  | pretty => "pretty"

/-- The format with a name in any letter case; unknown names give the one for
people. -/
def LogFormat.parse (s : String) : LogFormat := if Text.lower s = "json" then json else pretty

/-- **The logging section of a configuration.** -/
structure LoggingSettings where
  /-- The name of the level. -/
  level : String
  /-- The format. -/
  format : LogFormat
  /-- Further directives. -/
  targetFilter : Option String
  /-- Whether events tell where they come from. -/
  includeLocation : Bool
  deriving DecidableEq, Repr, Inhabited

namespace LoggingSettings

/-- What holds unless something else is configured. -/
def default : LoggingSettings := ⟨"info", .pretty, none, false⟩

/-- **The level that is in force**; unknown names, that of no logging included, give
`info`. -/
def effectiveLevel (s : LoggingSettings) : Verbosity :=
  let named := [Verbosity.trace, .debug, .warn, .error].find? (·.name = Text.lower s.level)
  named.getD .info

/-- **The filter that is in force.** -/
def filter (s : LoggingSettings) : Logging.Filter :=
  match s.targetFilter with
  | none => .ofLevel s.effectiveLevel
  | some directives => (Logging.Filter.ofLevel s.effectiveLevel).addText directives

end LoggingSettings

end HttpDispatch
