import HttpDispatch.Logging.Directive
import HttpDispatch.Middleware
import HttpDispatch.StructuredValue

/-!
# The journal of a dispatch

What a dispatch leaves behind besides its response: the events that it logs and
the calls of hooks, handlers and processors that it makes, both in order.

`Journal` is the type of a computation with these two records.  Its laws
(`value_bind`, `events_bind`, `calls_bind`) say that the records of consecutive
computations are put one after the other, and that the value of a computation
does not depend on what was recorded before.
-/

namespace HttpDispatch

/-- An event of the log, by its cause. -/
inductive LogEvent where
  /-- A request value was skipped. -/
  | skipped (what : Skipped)
  /-- The validator panicked. -/
  | validatorPanicked (handler : String) (payload : PanicPayload)
  /-- The route has no handler. -/
  | handlerMissing (handler : String)
  /-- The handler ended with an error. -/
  | handlerFailed (handler error : String)
  /-- The handler panicked. -/
  | handlerPanicked (handler : String) (payload : PanicPayload)
  /-- The handler asked for a redirect and returned a value as well. -/
  | resultDiscarded (handler : String)
  /-- The value of the handler could not be encoded. -/
  | resultNotEncoded (handler mediaType : String) (failure : Translator.Failure)
  /-- The payload of an error could not be encoded. -/
  | errorNotEncoded (mediaType : String) (failure : Translator.Failure)
  deriving DecidableEq, Repr

namespace LogEvent

/-- How serious an event is. -/
def level : LogEvent → Verbosity
  | skipped _ | resultDiscarded _ => .warn
  | _ => .error

/-- The message of an event. -/
def message : LogEvent → String
  | skipped what => what.cause.title
  | validatorPanicked _ _ => "Argument validator panicked"
  | handlerMissing _ => "Route has no handler"
  | handlerFailed _ _ => "Handler failed"
  | handlerPanicked _ _ => "Handler panicked"
  | resultDiscarded _ =>
    "Handler requested a redirect but also returned a result; the result is discarded"
  | resultNotEncoded _ _ _ => "Failed to translate handler result"
  | errorNotEncoded _ _ => "Failed to translate error payload"

/-- The fields of an event. -/
def fields : LogEvent → List (String × String)
  | skipped what => [("param", what.parameter), ("path", what.path), ("reason", what.cause.reason)]
  | validatorPanicked handler payload =>
    [("handler_name", handler), ("panic", payload.message)]
  | handlerMissing handler => [("handler_name", handler)]
  | handlerFailed handler error => [("handler_name", handler), ("error", error)]
  | handlerPanicked handler payload => [("handler_name", handler), ("panic", payload.message)]
  | resultDiscarded handler => [("handler_name", handler)]
  | resultNotEncoded handler mediaType failure =>
    [("handler_name", handler), ("media_type", mediaType), ("error", failure.message)]
  | errorNotEncoded mediaType failure =>
    [("media_type", mediaType), ("error", failure.message)]

end LogEvent

/-- A call that a dispatch makes, with what it passes on. -/
inductive Call where
  /-- A permit was asked for. -/
  | permit (granted : Bool)
  /-- The hook at a position saw the request. -/
  | before (position : Nat) (context : Context)
  /-- The handler was called. -/
  | handler
  /-- The post-processor at a position was called. -/
  | postProcessor (position : Nat)
  /-- The hook at a position saw the response. -/
  | after (position : Nat) (response : Response)
  deriving DecidableEq

/-- **A computation with its records.** -/
@[ext] structure Journal (α : Type) where
  /-- What it returned. -/
  value : α
  /-- What it logged. -/
  events : List LogEvent
  /-- What it called. -/
  calls : List Call

namespace Journal

variable {α β : Type}

instance : Monad Journal where
  pure a := ⟨a, [], []⟩
  bind j f :=
    let next := f j.value
    ⟨next.value, j.events ++ next.events, j.calls ++ next.calls⟩

/-- Log an event. -/
def log (event : LogEvent) : Journal Unit := ⟨(), [event], []⟩

/-- Log some events. -/
def logAll (events : List LogEvent) : Journal Unit := ⟨(), events, []⟩

/-- Record a call. -/
def call (what : Call) : Journal Unit := ⟨(), [], [what]⟩

@[simp] theorem value_pure (a : α) : (pure a : Journal α).value = a := rfl

@[simp] theorem events_pure (a : α) : (pure a : Journal α).events = [] := rfl

@[simp] theorem calls_pure (a : α) : (pure a : Journal α).calls = [] := rfl

@[simp] theorem value_bind (j : Journal α) (f : α → Journal β) :
    (j >>= f).value = (f j.value).value := rfl

@[simp] theorem events_bind (j : Journal α) (f : α → Journal β) :
    (j >>= f).events = j.events ++ (f j.value).events := rfl

@[simp] theorem calls_bind (j : Journal α) (f : α → Journal β) :
    (j >>= f).calls = j.calls ++ (f j.value).calls := rfl

@[simp] theorem value_map (f : α → β) (j : Journal α) : (f <$> j).value = f j.value := rfl

@[simp] theorem events_map (f : α → β) (j : Journal α) : (f <$> j).events = j.events :=
  List.append_nil _

@[simp] theorem calls_map (f : α → β) (j : Journal α) : (f <$> j).calls = j.calls :=
  List.append_nil _

@[simp] theorem events_log (event : LogEvent) : (log event).events = [event] := rfl

@[simp] theorem calls_log (event : LogEvent) : (log event).calls = [] := rfl

@[simp] theorem events_logAll (events : List LogEvent) : (logAll events).events = events := rfl

@[simp] theorem calls_logAll (events : List LogEvent) : (logAll events).calls = [] := rfl

@[simp] theorem events_call (what : Call) : (call what).events = [] := rfl

@[simp] theorem calls_call (what : Call) : (call what).calls = [what] := rfl

end Journal

end HttpDispatch
