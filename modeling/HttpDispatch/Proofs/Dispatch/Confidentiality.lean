import HttpDispatch.Proofs.Dispatch.Redaction

/-!
# Why something failed stays inside

Two dispatchers with the same redaction differ only in the details of their failures: in the
error or panic that a failing handler ends with and in what it has done to the context, in
the payload of a panicking validator, and in how a translator fails on a value.
`Dispatcher.completion_eq_of_redacted_eq` says that a client cannot tell them apart.

### Design notes

**The identifier of a request** is the one thing that two dispatches of one request may
differ in by themselves, as long as the header does not name it.  A handler may then return
it, which is no failure.  If handlers and hooks pass it on without looking at it
(`Dispatcher.IgnoresRequestId`), dispatches under different identifiers give the same reply.
-/

namespace HttpDispatch

/-- The end of a call, with its value changed. -/
def Completion.map {α β : Type} (change : α → β) : Completion α → Completion β
  | .returned value => .returned (change value)
  | .panicked payload => .panicked payload

/-- A context under another identifier. -/
def Context.withId (context : Context) (id : RequestId) : Context :=
  { context with requestId := id }

/-- A response under another identifier. -/
def Response.withId (response : Response) (id : RequestId) : Response :=
  { response with requestId := id }

/-- **A handler passes the identifier on** without looking at it. -/
def Handler.IgnoresRequestId (run : Handler) : Prop :=
  ∀ arguments context id, run arguments (context.withId id)
    = ((run arguments context).1, (run arguments context).2.withId id)

/-- **A hook passes the identifier on** without looking at it. -/
structure Middleware.IgnoresRequestId (m : Middleware) : Prop where
  /-- It does the same to a request under any identifier. -/
  before : ∀ request context id, m.before request (context.withId id)
    = ((m.before request context).1, (m.before request context).2.withId id)
  /-- It does the same to a response under any identifier. -/
  after : ∀ request response id, m.after request (response.withId id)
    = (m.after request response).withId id

/-- **A post-processor does not look at the identifier.** -/
def PostProcessor.IgnoresRequestId (p : PostProcessor) : Prop :=
  ∀ value context id, p.process value (context.withId id) = p.process value context

/-- A handler that always fails passes every identifier on, once its failures tell nothing. -/
theorem Handler.ignoresRequestId_of_fails {run : Handler}
    (h : ∀ arguments context, (run arguments context).1.fails = true) :
    run.redacted.IgnoresRequestId := by
  have hblank (arguments : Arguments) (context : Context) :
      run.redacted arguments context = (.panicked .other, context) :=
    masked_of_fails (h arguments context)
  intro arguments context id
  rw [hblank, hblank]

namespace Dispatcher

/-- **No part of a dispatcher looks at the identifier** of a request. -/
structure IgnoresRequestId (d : Dispatcher) : Prop where
  /-- No handler does. -/
  handlers : ∀ r ∈ d.routes.notFound :: d.routes.routes, ∀ run, r.handler? = some run →
    run.IgnoresRequestId
  /-- No hook does. -/
  middlewares : ∀ m ∈ d.middlewares, m.IgnoresRequestId
  /-- No post-processor does. -/
  postProcessors : ∀ p ∈ d.postProcessors, p.IgnoresRequestId

/-- A conclusion under another identifier. -/
def Conclusion.withId (conclusion : Conclusion) (id : RequestId) : Conclusion :=
  match conclusion with
  | .value result context => .value result (context.withId id)
  | other => other

/-! ### One stage after the other -/

section Stages

variable {d : Dispatcher}

/-- The hooks leave the same context and give the same answers. -/
theorem hooked_withId {ms : List Middleware} (h : ∀ m ∈ ms, m.IgnoresRequestId)
    (request : Request) (context : Context) (id : RequestId) :
    ms.foldl (fun context m => (m.before request context).2) (context.withId id)
        = (ms.foldl (fun context m => (m.before request context).2) context).withId id ∧
      answers request ms (context.withId id) = answers request ms context := by
  induction ms generalizing context with
  | nil => exact ⟨rfl, rfl⟩
  | cons m ms ih =>
      have hbefore := (h m (List.mem_cons_self ..)).before request context id
      obtain ⟨hcontext, hanswers⟩ :=
        ih (fun m' hm => h m' (List.mem_cons_of_mem m hm)) (m.before request context).2
      rw [List.foldl_cons, List.foldl_cons, answers_cons, answers_cons, hbefore]
      exact ⟨hcontext, by rw [hanswers]⟩

/-- The hooks make the same of a response. -/
theorem afterHooks_withId {ms : List Middleware} (h : ∀ m ∈ ms, m.IgnoresRequestId)
    (request : Request) (response : Response) (id : RequestId) :
    ms.foldl (fun response m => m.after request response) (response.withId id)
      = (ms.foldl (fun response m => m.after request response) response).withId id := by
  induction ms generalizing response with
  | nil => rfl
  | cons m ms ih =>
      rw [List.foldl_cons, List.foldl_cons,
        (h m (List.mem_cons_self ..)).after request response id]
      exact ih (fun m' hm => h m' (List.mem_cons_of_mem m hm)) (m.after request response)

/-- What the handler returns has the same meaning. -/
theorem returned_withId (name : String) (value : Json) (context : Context) (id : RequestId) :
    (returned name value (context.withId id)).value
      = (returned name value context).value.withId id := by
  have htarget : (context.withId id).redirectTarget = context.redirectTarget := rfl
  rw [returned, returned, htarget]
  cases context.redirectTarget with
  | none => rfl
  | some location => cases value.isNull <;> simp [Conclusion.withId]

/-- The handler leads to the same conclusion. -/
theorem invoke_withId {route : Route}
    (h : ∀ run, route.handler? = some run → run.IgnoresRequestId)
    (arguments : Arguments) (context : Context) (id : RequestId) :
    (invoke route arguments (context.withId id)).value
      = (invoke route arguments context).value.withId id := by
  cases hhandler : route.handler? with
  | none =>
      rw [invoke, invoke, hhandler]
      rfl
  | some run =>
      have hcall := h run hhandler arguments context id
      rw [invoke, invoke, hhandler]
      simp only [Journal.value_bind, hcall]
      rcases run arguments context with ⟨(error | value) | payload, after⟩
      · rfl
      · exact returned_withId route.name value after id
      · rfl

/-- The validator leads to the same conclusion. -/
theorem validate_withId {route : Route}
    (h : ∀ run, route.handler? = some run → run.IgnoresRequestId)
    (arguments : Arguments) (context : Context) (id : RequestId) :
    (d.validate route arguments (context.withId id)).value
      = (d.validate route arguments context).value.withId id := by
  rw [validate, validate]
  cases d.validator with
  | none => exact invoke_withId h arguments context id
  | some validator =>
      dsimp only
      rcases validator route.name arguments with (_ | ⟨message, messages⟩) | payload
      · exact invoke_withId h arguments context id
      · rfl
      · rfl

/-- The work on a request leads to the same conclusion. -/
theorem conclude_withId {s : Selection}
    (h : ∀ run, s.route.handler? = some run → run.IgnoresRequestId)
    (request : Request) (context : Context) (id : RequestId) :
    (d.conclude request s (context.withId id)).value
      = (d.conclude request s context).value.withId id := by
  rw [conclude, conclude]
  cases s.route.permanentRedirect? with
  | some location => rfl
  | none =>
      dsimp only
      split
      · rfl
      · rw [Journal.value_bind, Journal.value_bind]
        cases (arguments request s).outcome with
        | error violations => rfl
        | ok arguments => exact validate_withId h arguments context id

/-- The post-processors make the same of a value. -/
theorem postProcess_withId {ps : List PostProcessor} (h : ∀ p ∈ ps, p.IgnoresRequestId)
    (position : Nat) (value : Json) (context : Context) (id : RequestId) :
    postProcess (context.withId id) position ps value = postProcess context position ps value := by
  induction ps generalizing position value with
  | nil => rfl
  | cons p ps ih =>
      have hrest := ih fun p' hp => h p' (List.mem_cons_of_mem p hp)
      simp only [postProcess, h p (List.mem_cons_self ..) value context id, hrest]

/-- The conclusion is turned into the same reply. -/
theorem reply_withId (h : ∀ p ∈ d.postProcessors, p.IgnoresRequestId) (t : Translator)
    (s : Selection) (conclusion : Conclusion) (id : RequestId) :
    d.reply t s (conclusion.withId id) = d.reply t s conclusion := by
  cases conclusion with
  | value value context =>
      rw [Conclusion.withId, reply, reply, postProcess_withId h]
  | moved | unchanged | refused | failed | detour => rfl

end Stages

/-! ### The whole dispatch -/

section Whole

variable {d d' : Dispatcher}

/-- **Under different identifiers the dispatcher serves a request alike**, if none of its
parts looks at them. -/
theorem serve_withId (h : d.IgnoresRequestId) (request : Request) (id id' : RequestId) :
    (d.serve request id').value = (d.serve request id).value.map fun r => r.withId id' := by
  have hstart : startContext request id' = (startContext request id).withId id' := rfl
  obtain ⟨hcontext, hanswers⟩ :=
    hooked_withId h.middlewares request (startContext request id) id'
  have hafter (r : Reply) : d.afterHooks request (r.toResponse id')
      = (d.afterHooks request (r.toResponse id)).withId id' :=
    afterHooks_withId h.middlewares request (r.toResponse id) id'
  have hanswers' : d.hookAnswers request id' = d.hookAnswers request id := hanswers
  have hcontext' : d.hookedContext request id' = (d.hookedContext request id).withId id' :=
    hcontext
  have hhandler := h.handlers (d.selection request).route (d.routes.route_select_mem ..)
  have hown : (d.ownReply request id').value = (d.ownReply request id).value := by
    -- the identifier reaches the reply only in the context of a value, for post-processors
    rw [ownReply_eq, ownReply_eq, Journal.value_bind, Journal.value_bind, hcontext',
      conclude_withId hhandler, reply_withId h.postProcessors]
  cases hearly : earliest (d.hookAnswers request id) with
  | some reply =>
      rw [serve_of_answered hearly, serve_of_answered (hanswers' ▸ hearly), hafter]
      rfl
  | none =>
      have hunanswered := earliest_eq_none_iff.1 hearly
      cases hreply : (d.ownReply request id).value with
      | returned reply =>
          rw [serve_of_returned hunanswered hreply,
            serve_of_returned (hanswers' ▸ hunanswered) (hown.trans hreply), hafter]
          rfl
      | panicked payload =>
          rw [serve_of_panicked hunanswered hreply,
            serve_of_panicked (hanswers' ▸ hunanswered) (hown.trans hreply)]
          rfl

/-- A dispatcher that ignores identifiers replies alike under any two of them. -/
theorem map_completion_eq (h : d.IgnoresRequestId) (now : Rat) (fresh fresh' : RequestId)
    (request : Request) :
    (d.dispatch now fresh request).completion.map Response.toReply
      = (d.dispatch now fresh' request).completion.map Response.toReply := by
  have hserve : (d.serve request (requestId request fresh)).value.map Response.toReply
      = (d.serve request (requestId request fresh')).value.map Response.toReply := by
    rw [serve_withId h request (requestId request fresh') (requestId request fresh)]
    cases (d.serve request (requestId request fresh')).value <;> rfl
  rw [completion_dispatch, completion_dispatch]
  by_cases hlimit : d.TurnsAway now
  · rw [answer_of_turnsAway request _ hlimit, answer_of_turnsAway request _ hlimit]
    rfl
  · rw [answer_of_not_turnsAway request _ hlimit, answer_of_not_turnsAway request _ hlimit]
    exact hserve

/-- The header of a request, if it names an identifier, leaves no choice of one. -/
theorem requestId_eq {request : Request} {fresh fresh' : RequestId}
    (h : (RequestId.ofHeader? (request.header? RequestId.headerName)).isSome = true ∨
      fresh = fresh') :
    requestId request fresh = requestId request fresh' := by
  rcases h with hheader | rfl
  · obtain ⟨id, hid⟩ := Option.isSome_iff_exists.1 hheader
    rw [requestId, requestId, hid, Option.getD_some, Option.getD_some]
  · rfl

/-- **No detail of a failure reaches the client.**  Dispatchers that differ only in the
details of their failures complete a dispatch with the same response, at any time and for
every request, if the header names the identifier or they have the same one at hand; with
the same reply under any identifiers, if they do not look at them.  The dispatchers for the
next request differ in no more. -/
theorem completion_eq_of_redacted_eq (h : d.redacted = d'.redacted) (now : Rat)
    (fresh fresh' : RequestId) (request : Request) :
    ((RequestId.ofHeader? (request.header? RequestId.headerName)).isSome = true ∨
        fresh = fresh' →
      (d.dispatch now fresh request).completion
        = (d'.dispatch now fresh' request).completion) ∧
    (d.redacted.IgnoresRequestId →
      (d.dispatch now fresh request).completion.map Response.toReply
        = (d'.dispatch now fresh' request).completion.map Response.toReply) ∧
    (d.dispatch now fresh request).next.redacted
      = (d'.dispatch now fresh' request).next.redacted := by
  refine ⟨fun hid => ?_, fun hignores => ?_, ?_⟩
  · rw [← d.completion_redacted, ← d'.completion_redacted, h, completion_dispatch,
      completion_dispatch, requestId_eq hid]
  · -- the redacted dispatcher is the same for both, and only the identifiers differ
    rw [← d.completion_redacted, ← d'.completion_redacted, ← h]
    exact map_completion_eq hignores now fresh fresh' request
  · rw [← next_redacted, ← next_redacted, h]
    rfl

/-- A handler that asks for a redirect and fails, with a translator that can encode nothing:
whether the disk is full or the cause is unknown, the client is told that something went
wrong, and only the log says what. -/
theorem completion_eq_of_redacted_eq_jobs :
    let jobs (run : Handler) : Route := ⟨.get,
      ⟨"/jobs/\x7bid\x7d", [.literal "jobs", .capture "id"]⟩, "jobs", [],
      some (.handler run), false⟩
    let missing : Route := ⟨.get, ⟨"/404", [.literal "404"]⟩, "not_found", [],
      some (.handler RoutePlan.defaultNotFound), false⟩
    let build (run : Handler) (validator : Validator) (t : Translator) : Dispatcher :=
      { ofRoutes (.ofRoutes [jobs run] missing)
          ⟨⟨[("report", t)], List.pairwise_singleton _ _⟩, .empty, none, .json⟩ with
        validator := some validator }
    let report (encode : Json → Completion (Except TranslateError (List UInt8))) : Translator :=
      ⟨"application/x-report", "report", encode⟩
    let validator (payload : PanicPayload) : Validator := fun name _ =>
      if name = "jobs" then .returned [] else .panicked payload
    let d : Dispatcher := build
      (fun _ context => (.returned (.error ⟨"/var is full"⟩), context.redirectTo "/admin"))
      (validator (.text "no rule")) (report fun _ => .panicked (.text "/var is full"))
    let d' : Dispatcher := build
      (fun _ context => (.panicked .other, context.put "cause" .null))
      (validator .other) (report fun _ => .returned (.error ⟨"application/x-report", "?"⟩))
    let request : Request := .ofPath .get "/jobs/7.report"
    let id : RequestId := ⟨0, by decide⟩
    let other : RequestId := ⟨1, by decide⟩
    d.redacted = d'.redacted ∧ d.redacted.IgnoresRequestId ∧
      (d.dispatch 0 id request).events ≠ (d'.dispatch 0 id request).events ∧
      (d.dispatch 0 id request).completion = (d'.dispatch 0 id request).completion ∧
      (d.dispatch 0 id request).completion.map Response.toReply
        = (d'.dispatch 0 other request).completion.map Response.toReply := by
  intro jobs missing build report validator d d' request id other
  have hbuild (run run' : Handler) (v v' : Validator) (t t' : Translator)
      (hrun : run.redacted = run'.redacted) (hvalidator : v.redacted = v'.redacted)
      (ht : t.redacted = t'.redacted) : (build run v t).redacted = (build run' v' t').redacted := by
    have hroute : (jobs run).redacted = (jobs run').redacted := by
      simp only [jobs, Route.redacted, Option.map_some, Target.redacted, hrun]
    simp only [build, redacted, ofRoutes, RouteTable.ofRoutes, RouteTable.redacted,
      Registry.redacted, SortedMap.map, List.map_cons, List.map_nil, Option.map_some, hroute,
      hvalidator, ht]
  have h : d.redacted = d'.redacted := by
    apply hbuild
    · exact Handler.redacted_eq_iff.2 fun _ _ => .inr ⟨rfl, rfl⟩
    · refine Validator.redacted_eq_iff.2 fun name _ => ?_
      by_cases hname : name = "jobs"
      · exact .inl (by simp only [validator, hname, if_true])
      · exact .inr (by simp [validator, hname, Completion.isPanicked])
    · exact Translator.redacted_eq_iff.2 ⟨rfl, rfl, fun _ => .inr ⟨rfl, rfl⟩⟩
  have hignores : d.redacted.IgnoresRequestId := by
    refine ⟨fun r hr run hrun => ?_, fun _ hm => absurd hm List.not_mem_nil,
      fun _ hp => absurd hp List.not_mem_nil⟩
    rcases List.mem_cons.1 hr with rfl | hr
    · cases hrun
      exact fun _ _ _ => rfl
    · rw [List.mem_singleton.1 hr] at hrun
      cases hrun
      exact Handler.ignoresRequestId_of_fails fun _ _ => rfl
  obtain ⟨hsame, -, -⟩ := completion_eq_of_redacted_eq h 0 id id request
  obtain ⟨-, halike, -⟩ := completion_eq_of_redacted_eq h 0 id other request
  exact ⟨h, hignores, by decide +kernel, hsame (.inr rfl), halike hignores⟩

end Whole

end Dispatcher

end HttpDispatch
