import HttpDispatch.Config.Applied
import HttpDispatch.Dispatch.Journal
import HttpDispatch.Dispatch.Selection
import HttpDispatch.RateLimiter
import HttpDispatch.Resolution

/-!
# Dispatching

A dispatcher turns every request into a response.  One dispatch goes through these
stages, each of which may be the last:

1. the rate limiter grants a **permit** or the request is throttled;
2. the **hooks** see the request; the first reply of one is the reply;
3. a **route** is selected; a permanent redirect, or a static route for a client
   that has a copy, is the reply;
4. the **arguments** are resolved and validated;
5. the **handler** runs; it returns a value, asks for a redirect, or fails;
6. the **post-processors** transform the value, and the translator encodes it;
7. the hooks see the response.

### Design notes

**Failures are kept from the client.**  `Conclusion.failed` tells nothing of the
cause, which goes to the log only, so a reply cannot depend on it.

**Panics.**  Handlers, validators and translators may panic without harm.  A panic
of a post-processor ends the dispatch itself; `Run.completion` tells.

## Main definitions

* `Dispatcher`, `Dispatcher.ofConfig`
* `Dispatcher.conclude` — stages 3 to 5
* `Dispatcher.reply` — stage 6
* `Dispatcher.dispatch` — all stages
-/

namespace HttpDispatch

/-- **A dispatcher.** -/
structure Dispatcher where
  /-- The routes. -/
  routes : RouteTable
  /-- The translators. -/
  translators : Registry
  /-- The rate limiter, if there is a limit. -/
  limiter : Option RateLimiter
  /-- The validator, if there is one. -/
  validator : Option Validator
  /-- The hooks, in the order of registration. -/
  middlewares : List Middleware
  /-- The post-processors, in the order they run. -/
  postProcessors : List PostProcessor

namespace Dispatcher

/-! ### Setting up -/

/-- A dispatcher with nothing but routes and translators. -/
def ofRoutes (routes : RouteTable) (translators : Registry) : Dispatcher :=
  ⟨routes, translators, none, none, [], []⟩

/-- **A configured dispatcher.**  The not-found route of the table has to have the
configured path. -/
def ofConfig (routes : RouteTable) (config : Config) (now : Rat) :
    Except ConfigError Dispatcher :=
  let used := routes.notFound.pattern.text
  if Path.normalize used ≠ Path.normalize config.notFoundPath then
    .error (.invalidValue "not_found_path"
      (config.notFoundPath ++ " (route table uses " ++ used ++ ")"))
  else
    match Registry.ofSettings config.negotiation with
    | .error e => .error e
    | .ok translators =>
      .ok { ofRoutes routes translators with
        limiter := RateLimiter.ofSettings? config.throttle now }

/-- Limit the rate. -/
def withLimiter (d : Dispatcher) (limiter : RateLimiter) : Dispatcher :=
  { d with limiter := some limiter }

/-- Validate arguments. -/
def withValidator (d : Dispatcher) (validator : Validator) : Dispatcher :=
  { d with validator := some validator }

/-- Add a hook behind the others. -/
def addMiddleware (d : Dispatcher) (m : Middleware) : Dispatcher :=
  { d with middlewares := d.middlewares ++ [m] }

/-- **Add a post-processor**, keeping the processors in ascending order; those of
equal order run in the order of registration. -/
def addPostProcessor (d : Dispatcher) (p : PostProcessor) : Dispatcher :=
  { d with postProcessors := (d.postProcessors ++ [p]).mergeSort PostProcessor.precedes }

/-- A description of a dispatcher. -/
def inspect (d : Dispatcher) : String :=
  Text.record "Dispatcher"
    [("routes", d.routes.inspect), ("translators", d.translators.inspect),
      ("throttled", toString d.limiter.isSome), ("middlewares", toString d.middlewares.length),
      ("post_processors", toString d.postProcessors.length)]

/-! ### Replies to errors -/

/-- The value that an error is reported by. -/
def errorPayload (error : String) : Json := .ofMembers [("error", .string error)]

/-- The value that refused arguments are reported by. -/
def refusalPayload (messages : List String) : Json :=
  .ofMembers [("error", .string "Bad Request"), ("messages", .ofTexts messages)]

/-- The content that is sent if not even the payload of an error can be encoded. -/
def fallbackBody : List UInt8 := Utf8.encode "Internal Server Error".toList

/-- **Reply with an error.**  If the translator cannot encode the payload, a fixed
plain text is sent instead. -/
def errorReply (t : Translator) (status : Nat) (payload : Json) (outcome : Outcome) :
    Journal Reply :=
  match t.run payload with
  | .ok bytes => pure ((Reply.ofBytes status t.mediaType bytes).withOutcome outcome)
  | .error failure => do
    Journal.log (.errorNotEncoded t.mediaType failure)
    return (Reply.ofBytes status Translator.text.mediaType fallbackBody).withOutcome outcome

/-- Reply that something went wrong inside. -/
def internalError (t : Translator) (outcome : Outcome) : Journal Reply :=
  errorReply t 500 (errorPayload "Internal Server Error") outcome

/-- Reply that there are too many requests. -/
def throttledReply (t : Translator) : Journal Reply :=
  errorReply t 429 (errorPayload "Too Many Requests") .throttled

/-! ### From the request to a conclusion -/

/-- What the work on a request has led to, before anything is encoded. -/
inductive Conclusion where
  /-- The route leads elsewhere for good. -/
  | moved (location : String)
  /-- The client's copy is still good. -/
  | unchanged
  /-- The arguments are refused. -/
  | refused (messages : List String)
  /-- The handler or the validator failed. -/
  | failed
  /-- The handler sends the client elsewhere for now. -/
  | detour (location : String)
  /-- The handler returned a value. -/
  | value (value : Json) (context : Context)
  deriving DecidableEq

/-- **Resolve the arguments** for the selected route; path variables win over all
other values. -/
def arguments (request : Request) (s : Selection) : Resolution :=
  resolve ((request.values.flatten s.route.parameters).insertAll s.bindings)
    s.route.parameters request.body

/-- What a handler's return means. -/
def returned (name : String) (value : Json) (context : Context) : Journal Conclusion :=
  match context.redirectTarget with
  | none => pure (.value value context)
  | some location => do
    unless value.isNull do Journal.log (.resultDiscarded name)
    return .detour location

/-- **Call the handler** of a route. -/
def invoke (route : Route) (arguments : Arguments) (context : Context) : Journal Conclusion :=
  match route.handler? with
  | none => do
    Journal.log (.handlerMissing route.name)
    return .failed
  | some run => do
    Journal.call .handler
    match run arguments context with
    | (.returned (.ok value), context) => returned route.name value context
    | (.returned (.error e), _) =>
      Journal.log (.handlerFailed route.name e.message)
      return .failed
    | (.panicked payload, _) =>
      Journal.log (.handlerPanicked route.name payload)
      return .failed

/-- **Validate the arguments** of a route, then call its handler. -/
def validate (d : Dispatcher) (route : Route) (arguments : Arguments) (context : Context) :
    Journal Conclusion :=
  match d.validator with
  | none => invoke route arguments context
  | some validator =>
    match validator route.name arguments with
    | .returned [] => invoke route arguments context
    | .returned messages => pure (.refused messages)
    | .panicked payload => do
      Journal.log (.validatorPanicked route.name payload)
      return .failed

/-- Whether a client has a copy of what it asks for. -/
def hasCopy (request : Request) : Bool := (request.header? "if-modified-since").isSome

/-- **Work on the selected route** until nothing but the encoding is left. -/
def conclude (d : Dispatcher) (request : Request) (s : Selection) (context : Context) :
    Journal Conclusion :=
  match s.route.permanentRedirect? with
  | some location => pure (.moved location)
  | none =>
    if s.route.isStatic && hasCopy request then pure .unchanged
    else do
      let resolution := arguments request s
      Journal.logAll (resolution.skipped.map .skipped)
      match resolution.outcome with
      | .error violations => return .refused (violations.map Violation.message)
      | .ok arguments => d.validate s.route arguments context

/-! ### From the conclusion to a reply -/

/-- **Run post-processors** on a value, counting from a position. -/
def postProcess (context : Context) :
    (position : Nat) → List PostProcessor → Json → Journal (Completion Json)
  | _, [], value => pure (.returned value)
  | position, p :: ps, value => do
    Journal.call (.postProcessor position)
    match p.process value context with
    | .returned value => postProcess context (position + 1) ps value
    | .panicked payload => return .panicked payload

/-- **Encode the value** of a handler. -/
def encode (t : Translator) (s : Selection) (value : Json) : Journal Reply :=
  match t.run value with
  | .ok bytes =>
    if s.isNotFound then
      pure ((Reply.ofBytes 404 t.mediaType bytes).withOutcome .notFound)
    else pure (Reply.ofBytes 200 t.mediaType bytes)
  | .error failure => do
    Journal.log (.resultNotEncoded s.route.name t.mediaType failure)
    internalError t .serializationFailed

/-- **Turn a conclusion into a reply.** -/
def reply (d : Dispatcher) (t : Translator) (s : Selection) :
    Conclusion → Journal (Completion Reply)
  | .moved location => pure (.returned (.redirect location true))
  | .unchanged => pure (.returned .notModified)
  | .refused messages =>
    .returned <$> errorReply t 400 (refusalPayload messages) .validationFailed
  | .failed => .returned <$> internalError t .handlerFailed
  | .detour location => pure (.returned (.redirect location false))
  | .value value context => do
    match ← postProcess context 0 d.postProcessors value with
    | .returned value => .returned <$> encode t s value
    | .panicked payload => return .panicked payload

/-- **Reply to a request** that no hook has answered. -/
def respond (d : Dispatcher) (request : Request) (context : Context) (t : Translator) :
    Journal (Completion Reply) := do
  let s := d.routes.select d.translators request.method request.path
  d.reply t s (← d.conclude request s context)

/-! ### Hooks -/

/-- **Show the request to the hooks**, counting from a position; the first reply
counts, and all hooks see the request. -/
def runBefore (request : Request) : (position : Nat) → List Middleware → Option Reply →
    Context → Journal (Option Reply × Context)
  | _, [], early, context => pure (early, context)
  | position, m :: ms, early, context => do
    Journal.call (.before position context)
    let (answer, context) := m.before request context
    runBefore request (position + 1) ms (early.or answer) context

/-- **Show the response to the hooks**, counting from a position. -/
def runAfter (request : Request) : (position : Nat) → List Middleware → Response →
    Journal Response
  | _, [], response => pure response
  | position, m :: ms, response => do
    Journal.call (.after position response)
    runAfter request (position + 1) ms (m.after request response)

/-! ### A whole dispatch -/

/-- The identifier of a request: the one in its header, else a fresh one. -/
def requestId (request : Request) (fresh : RequestId) : RequestId :=
  (RequestId.ofHeader? (request.header? RequestId.headerName)).getD fresh

/-- The translator that a request asks for. -/
def translator (d : Dispatcher) (request : Request) : Translator :=
  d.translators.choose request.path (request.header? "accept")

/-- The context at the start of a request. -/
def startContext (request : Request) (id : RequestId) : Context :=
  .start id request.path (request.header? "referer")

/-- **Serve a request** that has a permit. -/
def serve (d : Dispatcher) (request : Request) (id : RequestId) :
    Journal (Completion Response) := do
  let (early, context) ← runBefore request 0 d.middlewares none (startContext request id)
  let completion ← match early with
    | some reply => pure (.returned reply)
    | none => d.respond request context (d.translator request)
  match completion with
  | .returned reply => .returned <$> runAfter request 0 d.middlewares (reply.toResponse id)
  | .panicked payload => return .panicked payload

/-- **Ask for a permit**, if there is a limit. -/
def permit (d : Dispatcher) (now : Rat) : Option (Permit × RateLimiter) :=
  d.limiter.map fun limiter => limiter.acquire now

/-- **Serve a request or turn it away**, given the answer about its permit. -/
def answer (d : Dispatcher) (request : Request) (id : RequestId) :
    Option Permit → Journal (Completion Response)
  | none => d.serve request id
  | some (.granted _) => do
    Journal.call (.permit true)
    d.serve request id
  | some .refused => do
    Journal.call (.permit false)
    return .returned ((← throttledReply (d.translator request)).toResponse id)

/-- A dispatch and what it leaves behind. -/
structure Run where
  /-- The response, unless a panic ended the dispatch. -/
  completion : Completion Response
  /-- The events it logged. -/
  events : List LogEvent
  /-- The calls it made. -/
  calls : List Call
  /-- How long it waited for a permit, in seconds. -/
  wait : Rat
  /-- The dispatcher for the next request. -/
  next : Dispatcher

/-- **Dispatch a request** at a time, with an identifier in case it brings none. -/
def dispatch (d : Dispatcher) (now : Rat) (fresh : RequestId) (request : Request) : Run :=
  let admission := d.permit now
  let journal := d.answer request (requestId request fresh) (admission.map Prod.fst)
  { completion := journal.value
    events := journal.events
    calls := journal.calls
    wait := (admission.map fun a => a.1.wait).getD 0
    next := { d with limiter := admission.map Prod.snd } }

end Dispatcher

end HttpDispatch
