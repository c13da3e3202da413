import HttpDispatch.Completion
import HttpDispatch.Context
import HttpDispatch.Request
import HttpDispatch.Response

/-!
# Hooks around a dispatch

* A `Middleware` sees every request before it is routed and every response before
  it leaves.  It may answer a request itself, and may change a response.
* A `PostProcessor` transforms the value of a handler before it is encoded.
-/

namespace HttpDispatch

/-- **A hook around every dispatch.** -/
structure Middleware where
  /-- Look at a request; may answer it and may change its context. -/
  before : Request → Context → Option Reply × Context
  /-- Look at the response to a request; may change it. -/
  after : Request → Response → Response

/-- The hook that does nothing. -/
def Middleware.idle : Middleware := ⟨fun _ context => (none, context), fun _ response => response⟩

/-- **A transformation of handler values.** -/
structure PostProcessor where
  /-- Processors of lower order run first. -/
  order : Int
  /-- Transform a value; may panic. -/
  process : Json → Context → Completion Json

/-- Whether a processor may run ahead of another. -/
def PostProcessor.precedes (a b : PostProcessor) : Bool := a.order ≤ b.order

end HttpDispatch
