import HttpDispatch.Arguments
import HttpDispatch.Completion
import HttpDispatch.Context

/-!
# Handlers and validators

The code that an application supplies for a route.  Both are functions of what
they are given.  A handler may change the context of its request, also when it
fails; a validator only looks at the arguments.
-/

namespace HttpDispatch

/-- An error that a handler ends with.  Its text is for the log, not for the
client. -/
structure HandlerError where
  /-- What went wrong. -/
  message : String
  deriving DecidableEq, Repr

/-- **A handler**: from the arguments and the context to a value, an error or a
panic, and the context afterwards. -/
abbrev Handler := Arguments → Context → Completion (Except HandlerError Json) × Context

/-- **A validator**: from the name of a handler and its arguments to the messages
about what is wrong with them. -/
abbrev Validator := String → Arguments → Completion (List String)

end HttpDispatch
