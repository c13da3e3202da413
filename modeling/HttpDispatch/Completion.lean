/-!
# How a call of foreign code ends

Handlers, validators, translators and post-processors are supplied by the
application.  A call of one either returns or panics, and `Completion` keeps the
two apart, so that every way a dispatch can go is a value.
-/

namespace HttpDispatch

/-- What a panic carries. -/
inductive PanicPayload where
  /-- A text. -/
  | text (message : String)
  /-- Anything else. -/
  | other
  deriving DecidableEq, Repr

/-- The wording of a panic. -/
def PanicPayload.message : PanicPayload → String
  | text message => message
  | other => "unknown panic"

/-- The end of a call: a value, or a panic. -/
inductive Completion (α : Type) where
  /-- The call returned. -/
  | returned (value : α)
  /-- The call panicked. -/
  | panicked (payload : PanicPayload)
  deriving DecidableEq, Repr

end HttpDispatch
