import HttpDispatch.Proofs.Dispatch.Course
import HttpDispatch.Proofs.Dispatch.Hooks
import HttpDispatch.Proofs.Dispatch.Selection

/-!
# What one dispatch calls

A dispatch calls foreign code at six stages, and each stage may be left out for a reason
that is decided elsewhere: a permit that is refused, an answer of a hook, a route that leads
elsewhere, an argument that is missing, a message of the validator, a handler that fails or
asks for a redirect.  `Dispatcher.Traces` says what is called, in which order and under
which conditions, and `Dispatcher.traces_of_dispatch` that nothing else ever is.

The conditions are those of the course of a request (`Dispatcher.Admits`,
`Dispatcher.Returns`), so the proof only has to go through the list of courses once for the
handler (`madeIf_handler`) and once for the post-processors (`madeIf_processors`).

### Design notes

**Tables that were built.**  A route that leads nowhere has no handler to be called.  No
plan builds a table with such a route (`RoutePlan.isSome_target_of_build`), and the
statements are about tables that were built.

**Panics.**  A post-processor that panics ends the dispatch where it stands, and the hooks
do not see a response.  This is the only way in which a dispatch ends without one.
-/

namespace HttpDispatch

/-- **Calls that are made if a condition holds**, and left out otherwise. -/
structure MadeIf (condition : Prop) (calls actual : List Call) : Prop where
  /-- They are made. -/
  made : condition → actual = calls
  /-- They are left out. -/
  omitted : ¬ condition → actual = []

namespace MadeIf

variable {condition : Prop} {calls actual : List Call}

theorem of_not (h : ¬ condition) : MadeIf condition calls [] :=
  ⟨fun hc => absurd hc h, fun _ => rfl⟩

/-- Only what the condition says matters. -/
theorem of_iff {other : Prop} (h : MadeIf condition calls actual) (hiff : other ↔ condition) :
    MadeIf other calls actual :=
  ⟨fun ho => h.made (hiff.1 ho), fun hn => h.omitted fun hc => hn (hiff.2 hc)⟩

end MadeIf

/-- The calls of the first so many post-processors. -/
def processorCalls (count : Nat) : List Call := (List.range count).map .postProcessor

/-- A route that leads somewhere, but not elsewhere for good, has a handler. -/
theorem Route.exists_handler? {r : Route} (target : r.target.isSome = true)
    (notMoved : r.permanentRedirect? = none) : ∃ run, r.handler? = some run := by
  obtain ⟨reached, hreached⟩ := Option.isSome_iff_exists.1 target
  cases reached with
  | handler run => exact ⟨run, by rw [handler?, hreached]⟩
  | permanentRedirect location =>
      rw [permanentRedirect?, hreached] at notMoved
      cases notMoved

namespace Dispatcher

/-! ### What is due -/

/-- **The handler is due**: no hook has answered, and the request is admitted. -/
def HandlerDue (d : Dispatcher) (request : Request) (id : RequestId) : Prop :=
  (∀ answer ∈ d.hookAnswers request id, answer = none) ∧
    ∃ arguments, d.Admits request (d.selection request) arguments

/-- **The post-processors are due** for a value: no hook has answered, and the handler has
returned the value without asking for a redirect. -/
def ProcessingDue (d : Dispatcher) (request : Request) (id : RequestId) (value : Json)
    (after : Context) : Prop :=
  (∀ answer ∈ d.hookAnswers request id, answer = none) ∧
    d.Returns request (d.selection request) (d.hookedContext request id) value after ∧
    after.redirectTarget = none

/-- **The reply that the first hook is shown**: the earliest answer of a hook, or for want of
one the dispatcher's own. -/
inductive Gives (d : Dispatcher) (request : Request) (id : RequestId) : Reply → Prop
  | early {reply : Reply} (answer : earliest (d.hookAnswers request id) = some reply) :
      Gives d request id reply
  | own {reply : Reply} (unanswered : ∀ answer ∈ d.hookAnswers request id, answer = none)
      (value : (d.ownReply request id).value = .returned reply) : Gives d request id reply

/-- **The calls of one dispatch**, in order, and how it ends. -/
inductive Traces (d : Dispatcher) (now : Rat) (request : Request) (id : RequestId) :
    Completion Response → List Call → Prop
  /-- The permit is refused, and nothing else is called. -/
  | turnedAway (limit : d.TurnsAway now) :
      Traces d now request id
        (.returned ((throttledReply (d.translator request)).value.toResponse id))
        [.permit false]
  /-- Every hook sees the request and the response, and in between the handler and the
  post-processors are called if they are due. -/
  | served {reply : Reply} {handler processors : List Call} (permitted : ¬ d.TurnsAway now)
      (gives : d.Gives request id reply)
      (handled : MadeIf (d.HandlerDue request id) [.handler] handler)
      (processed : MadeIf (∃ value after, d.ProcessingDue request id value after)
        (processorCalls d.postProcessors.length) processors) :
      Traces d now request id (.returned (d.afterHooks request (reply.toResponse id)))
        (d.permitCalls ++ beforeCalls request 0 d.middlewares (startContext request id) ++
          handler ++ processors ++ afterCalls request 0 d.middlewares (reply.toResponse id))
  /-- A post-processor panics. -/
  | panicked {value : Json} {after : Context} {count : Nat} {payload : PanicPayload}
      (permitted : ¬ d.TurnsAway now) (due : d.ProcessingDue request id value after)
      (processed : Processed after d.postProcessors value count (.panicked payload)) :
      Traces d now request id (.panicked payload)
        (d.permitCalls ++ beforeCalls request 0 d.middlewares (startContext request id) ++
          [.handler] ++ processorCalls count)

variable {d : Dispatcher} {request : Request} {s : Selection} {context : Context}

/-! ### The handler -/

/-- A handler that there is gets called once. -/
theorem calls_invoke {route : Route} {run : Handler} (handler : route.handler? = some run)
    (arguments : Arguments) : (invoke route arguments context).calls = [.handler] := by
  rcases hcall : run arguments context with ⟨(error | value) | payload, after⟩
  · simp [invoke, handler, hcall]
  · cases htarget : after.redirectTarget with
    | none => simp [invoke, handler, hcall, returned, htarget]
    | some location =>
        by_cases hnull : value.isNull = true <;>
          simp [invoke, handler, hcall, returned, htarget, hnull]
  · simp [invoke, handler, hcall]

/-- **The handler is called if the request is admitted**, once, and else not. -/
theorem madeIf_handler (target : s.route.target.isSome = true) (context : Context) :
    MadeIf (∃ arguments, d.Admits request s arguments) [.handler]
      (d.conclude request s context).calls where
  made := by
    rintro ⟨arguments, admits⟩
    obtain ⟨run, handler⟩ := Route.exists_handler? target admits.notMoved
    rw [conclude_of_admits admits]
    exact calls_invoke handler arguments
  omitted := by
    intro hnot
    have course := concludes d request s context
    generalize (d.conclude request s context).value = conclusion,
      (d.conclude request s context).events = events,
      (d.conclude request s context).calls = calls at course
    -- four courses end short of the handler, and all others are for admitted requests
    cases course with
    | moved | unchanged | refused | validatorPanicked => rfl
    | handlerMissing admits | handlerFailed admits | handlerPanicked admits =>
        exact absurd ⟨_, admits⟩ hnot
    | detour returns | value returns =>
        obtain ⟨arguments, -, admits, -⟩ := returns
        exact absurd ⟨arguments, admits⟩ hnot

/-! ### The post-processors -/

/-- Encoding a value calls nothing. -/
theorem calls_encode (t : Translator) (s : Selection) (value : Json) :
    (encode t s value).calls = [] := by
  unfold encode
  split
  · split <;> rfl
  · exact calls_errorReply ..

/-- For a value there is a call for each post-processor, up to the one that panics. -/
theorem calls_reply_value (t : Translator) (s : Selection) (value : Json) (after : Context) :
    ∃ count, Processed after d.postProcessors value count
        (postProcess after 0 d.postProcessors value).value ∧
      (d.reply t s (.value value after)).calls = processorCalls count := by
  obtain ⟨count, hprocessed, -, hcalls⟩ := exists_processed after 0 d.postProcessors value
  refine ⟨count, hprocessed, ?_⟩
  rw [reply, Journal.calls_bind, hcalls, ← List.range_eq_range']
  cases (postProcess after 0 d.postProcessors value).value with
  | returned result => rw [Journal.calls_map, calls_encode, List.append_nil, processorCalls]
  | panicked payload => rw [Journal.calls_pure, List.append_nil, processorCalls]

/-- Without a value no post-processor is called. -/
theorem calls_reply_of_ne_value (t : Translator) (s : Selection) {conclusion : Conclusion}
    (h : ∀ value after, conclusion ≠ .value value after) :
    (d.reply t s conclusion).calls = [] := by
  cases conclusion with
  | moved | unchanged | detour => rfl
  | refused | failed => rw [reply, Journal.calls_map]; exact calls_errorReply ..
  | value value after => exact absurd rfl (h value after)

/-- **All post-processors are called if there is a value**, once each, and else none. -/
theorem madeIf_processors {t : Translator} {r : Reply}
    (h : (d.reply t s (d.conclude request s context).value).value = .returned r) :
    MadeIf (∃ value after, d.Returns request s context value after ∧
        after.redirectTarget = none)
      (processorCalls d.postProcessors.length)
      (d.reply t s (d.conclude request s context).value).calls where
  made := by
    rintro ⟨value, after, hvalue⟩
    rw [← value_conclude_eq_value_iff] at hvalue
    rw [hvalue] at h ⊢
    obtain ⟨count, hprocessed, hcalls⟩ := calls_reply_value (d := d) t s value after
    rw [reply, Journal.value_bind] at h
    cases hcompletion : (postProcess after 0 d.postProcessors value).value with
    | returned result =>
        rw [hcompletion] at hprocessed
        rw [hcalls, hprocessed.count_of_returned]
    | panicked payload =>
        rw [hcompletion] at h
        cases h
  omitted := by
    intro hnot
    refine calls_reply_of_ne_value t s fun value after hvalue => hnot ?_
    exact ⟨value, after, value_conclude_eq_value_iff.1 hvalue⟩

/-- **Only a post-processor can keep the dispatcher from replying**, and it is the last that
is called. -/
theorem exists_processed_of_panicked {t : Translator} {payload : PanicPayload}
    (h : (d.reply t s (d.conclude request s context).value).value = .panicked payload) :
    ∃ value after count, d.Returns request s context value after ∧
      after.redirectTarget = none ∧
      Processed after d.postProcessors value count (.panicked payload) ∧
      (d.reply t s (d.conclude request s context).value).calls = processorCalls count := by
  cases hconclusion : (d.conclude request s context).value with
  | moved | unchanged | refused | failed | detour =>
      rw [hconclusion] at h
      cases h
  | value value after =>
      obtain ⟨returns, target⟩ := value_conclude_eq_value_iff.1 hconclusion
      obtain ⟨count, hprocessed, hcalls⟩ := calls_reply_value (d := d) t s value after
      rw [hconclusion, reply, Journal.value_bind] at h
      cases hcompletion : (postProcess after 0 d.postProcessors value).value with
      | returned result =>
          rw [hcompletion] at h
          cases h
      | panicked payload' =>
          rw [hcompletion] at h hprocessed
          cases h
          exact ⟨value, after, count, returns, target, hprocessed, hcalls⟩

/-! ### The whole dispatch -/

section Traces

variable {now : Rat} {id : RequestId}

/-- A request that a hook has answered gets no further. -/
theorem traces_of_answered {reply : Reply} (permitted : ¬ d.TurnsAway now)
    (h : earliest (d.hookAnswers request id) = some reply) :
    d.Traces now request id (d.serve request id).value
      (d.permitCalls ++ (d.serve request id).calls) := by
  have hanswered : ¬ ∀ answer ∈ d.hookAnswers request id, answer = none := by
    rw [← earliest_eq_none_iff, h]
    nofun
  have handled : MadeIf (d.HandlerDue request id) [.handler] [] :=
    .of_not fun due => hanswered due.1
  have processed : MadeIf (∃ value after, d.ProcessingDue request id value after)
      (processorCalls d.postProcessors.length) [] :=
    .of_not fun ⟨_, _, due⟩ => hanswered due.1
  rw [serve_of_answered h]
  simpa using Traces.served permitted (.early h) handled processed

/-- A request that no hook has answered is worked on. -/
theorem traces_of_unanswered (permitted : ¬ d.TurnsAway now)
    (h : ∀ answer ∈ d.hookAnswers request id, answer = none)
    (target : (d.selection request).route.target.isSome = true) :
    d.Traces now request id (d.serve request id).value
      (d.permitCalls ++ (d.serve request id).calls) := by
  -- the work up to the conclusion calls the handler, the rest the post-processors
  have handled : MadeIf (d.HandlerDue request id) [.handler] _ :=
    (madeIf_handler target (d.hookedContext request id)).of_iff (and_iff_right h)
  cases hown : (d.ownReply request id).value with
  | returned reply =>
      have hreply := hown
      rw [ownReply_eq, Journal.value_bind] at hreply
      have processed : MadeIf (∃ value after, d.ProcessingDue request id value after)
          (processorCalls d.postProcessors.length) _ :=
        (madeIf_processors hreply).of_iff (exists₂_congr fun _ _ => and_iff_right h)
      rw [serve_of_returned h hown, ownReply_eq, Journal.calls_bind]
      simpa using Traces.served permitted (.own h hown) handled processed
  | panicked payload =>
      have hreply := hown
      rw [ownReply_eq, Journal.value_bind] at hreply
      obtain ⟨value, after, count, returns, htarget, hprocessed, hcalls⟩ :=
        exists_processed_of_panicked hreply
      have ⟨arguments, _, admits, _⟩ := returns
      have hhandler := handled.made ⟨h, arguments, admits⟩
      rw [serve_of_panicked h hown, ownReply_eq, Journal.calls_bind, hcalls, hhandler]
      simpa using Traces.panicked permitted ⟨h, returns, htarget⟩ hprocessed

/-- **The calls of every dispatch.**  A refused permit is the only call.  Otherwise every hook
sees the request, once and in order, whatever the others answer; the handler is called
once if it is due and the post-processors once each if they are; and every hook sees the
response, the first of them the earliest answer or the dispatcher's own reply under the
identifier of this request. -/
theorem traces_of_dispatch {plan : RoutePlan} {d : Dispatcher}
    (built : plan.build = .ok d.routes) (now : Rat) (fresh : RequestId) (request : Request) :
    d.Traces now request (requestId request fresh) (d.dispatch now fresh request).completion
      (d.dispatch now fresh request).calls := by
  have target : (d.selection request).route.target.isSome = true :=
    RoutePlan.isSome_target_of_build built _ (d.routes.route_select_mem ..)
  rw [completion_dispatch, calls_dispatch]
  by_cases hlimit : d.TurnsAway now
  · rw [answer_of_turnsAway request _ hlimit]
    exact .turnedAway hlimit
  · rw [answer_of_not_turnsAway request _ hlimit]
    cases hearly : earliest (d.hookAnswers request (requestId request fresh)) with
    | some reply => exact traces_of_answered hlimit hearly
    | none => exact traces_of_unanswered hlimit (earliest_eq_none_iff.1 hearly) target

/-- Under a limit, with two hooks and a processor, the handler of a report is called. -/
theorem traces_of_dispatch_report :
    let run : Handler := fun _ context => (.returned (.ok (.string "weekly")), context)
    let plan : RoutePlan :=
      RoutePlan.empty.add ((RouteDefinition.ofTemplate .get "/report").withHandler run)
    let route (pattern : Pattern) (name : String) (run : Handler) : Route :=
      ⟨.get, pattern, name, [], some (.handler run), false⟩
    let d : Dispatcher :=
      { ofRoutes (.ofRoutes
          [route ⟨"/report", [.literal "report"]⟩ "GET /report" run]
          (route ⟨"/404", [.literal "404"]⟩ "not_found" RoutePlan.defaultNotFound))
          Registry.builtIn with
        limiter := some (.start 1 0 0)
        middlewares := [.idle, .idle]
        postProcessors := [⟨0, fun value _ => .returned (.array [value])⟩] }
    let request : Request := .ofPath .get "/report"
    let id : RequestId := ⟨0, by decide⟩
    let response : Response := (Reply.ofJson 200 (.array [.string "weekly"])).toResponse id
    plan.build = .ok d.routes ∧
      d.Traces 0 request (requestId request id) (d.dispatch 0 id request).completion
        (d.dispatch 0 id request).calls ∧
      (d.dispatch 0 id request).calls =
        [.permit true, .before 0 (startContext request id), .before 1 (startContext request id),
          .handler, .postProcessor 0, .after 0 response, .after 1 response] := by
  intro run plan route d request id response
  have report : Pattern.compile (Path.under "" "/report")
      = .ok ⟨"/report", [.literal "report"]⟩ := by decide
  have missing : Pattern.compile "/404" = .ok ⟨"/404", [.literal "404"]⟩ := by decide
  have name : Method.get.text ++ " " ++ "/report" = "GET /report" := by decide
  have built : plan.build = .ok d.routes := by
    simp [plan, d, route, RoutePlan.add, RoutePlan.empty, RoutePlan.build, ofRoutes,
      RoutePlan.compileAll_nil, RoutePlan.compileAll_cons, RoutePlan.compileOne,
      RoutePlan.compileNotFound, RouteDefinition.compile, RouteDefinition.withHandler,
      RouteDefinition.ofTemplate, Config.defaultNotFoundPath, RoutePlan.notFoundName, report,
      missing, name]
  exact ⟨built, traces_of_dispatch built 0 id request, by decide +kernel⟩

end Traces

end Dispatcher

end HttpDispatch
