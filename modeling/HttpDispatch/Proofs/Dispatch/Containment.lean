import HttpDispatch.Proofs.Dispatch.Calls
import HttpDispatch.Proofs.Dispatch.Consistency

/-!
# What becomes of a failure

Four kinds of foreign code run while a request is worked on: the validator, the handler, the
post-processors and the translator.  This module says what a dispatch makes of a failure of
each of them.

* A validator that panics, a handler that ends with an error or panics, and a translator that
  refuses a value or panics over it are **contained** (`Dispatcher.Fails`): the client gets a
  reply.  Its status is 500, also if the translator then fails once more, over the report of
  the failure.  Only a translator that fails over the report of a refusal takes nothing of that
  reply but its content: the status stays 400.
* A panic of a post-processor **escapes** (`Dispatcher.Escapes`), and with it the dispatch ends
  without a response.  Nothing else ends a dispatch in this way.

Both are the content of `Dispatcher.containment_of_dispatch`.
-/

namespace HttpDispatch

namespace Dispatcher

/-- **A request is worked on**: it is not turned away, and no hook answers it. -/
def WorksOn (d : Dispatcher) (now : Rat) (request : Request) (id : RequestId) : Prop :=
  ¬ d.TurnsAway now ∧ ∀ answer ∈ d.hookAnswers request id, answer = none

/-- **A stage fails** over a request, other than the post-processors, with the outcome and
the status that say so. -/
inductive Fails (d : Dispatcher) (request : Request) (id : RequestId) : Outcome → Nat → Prop
  /-- The validator panics. -/
  | validator {validator : Validator} {arguments : Arguments} {payload : PanicPayload}
      (needed : NeedsHandler request (d.selection request))
      (bound : (Dispatcher.arguments request (d.selection request)).outcome = .ok arguments)
      (validates : d.validator = some validator)
      (run : validator (d.selection request).route.name arguments = .panicked payload) :
      Fails d request id .handlerFailed 500
  /-- The handler ends with an error. -/
  | handlerError {arguments : Arguments} {run : Handler} {error : HandlerError}
      {after : Context} (admits : d.Admits request (d.selection request) arguments)
      (handler : (d.selection request).route.handler? = some run)
      (call : run arguments (d.hookedContext request id) = (.returned (.error error), after)) :
      Fails d request id .handlerFailed 500
  /-- The handler panics. -/
  | handlerPanic {arguments : Arguments} {run : Handler} {payload : PanicPayload}
      {after : Context} (admits : d.Admits request (d.selection request) arguments)
      (handler : (d.selection request).route.handler? = some run)
      (call : run arguments (d.hookedContext request id) = (.panicked payload, after)) :
      Fails d request id .handlerFailed 500
  /-- The translator refuses the value that is to be sent, or panics over it. -/
  | translator {result : Json} {failure : Translator.Failure}
      (produces : d.Produces request id result)
      (run : (d.translator request).run result = .error failure) :
      Fails d request id .serializationFailed 500
  /-- The translator refuses the report of a refusal, or panics over it. -/
  | report {messages : List String} {failure : Translator.Failure}
      (refuses : d.Refuses request (d.selection request) messages)
      (run : (d.translator request).run (refusalPayload messages) = .error failure) :
      Fails d request id .validationFailed 400

/-- **A panic of a post-processor** over the value of the handler. -/
def Escapes (d : Dispatcher) (request : Request) (id : RequestId) (payload : PanicPayload) :
    Prop :=
  ∃ value after count,
    d.Returns request (d.selection request) (d.hookedContext request id) value after ∧
    after.redirectTarget = none ∧
    Processed after d.postProcessors value count (.panicked payload)

variable {d : Dispatcher} {request : Request} {id : RequestId} {payload : PanicPayload}

/-! ### Failures that are contained -/

/-- An error reply has the status that it is given. -/
theorem status_errorReply (t : Translator) (status : Nat) (payload : Json)
    (outcome : Outcome) : (errorReply t status payload outcome).value.status = status := by
  unfold errorReply
  split <;> rfl

/-- A request that needs the handler ends as its arguments are bound and validated. -/
theorem value_conclude_of_needsHandler {s : Selection} {context : Context}
    (needed : NeedsHandler request s) :
    (d.conclude request s context).value =
      match (Dispatcher.arguments request s).outcome with
      | .error violations => .refused (violations.map Violation.message)
      | .ok arguments => (d.validate s.route arguments context).value := by
  have hneeded : (s.route.isStatic && hasCopy request) = false := by
    simpa using needed.notUnchanged
  cases houtcome : (Dispatcher.arguments request s).outcome with
  | error violations => simp [conclude, needed.notMoved, hneeded, houtcome]
  | ok arguments => simp [conclude, needed.notMoved, hneeded, houtcome]

/-- A validator that panics leads to a failure. -/
theorem value_conclude_of_validator_panicked {s : Selection} {context : Context}
    {validator : Validator} {arguments : Arguments} (needed : NeedsHandler request s)
    (bound : (Dispatcher.arguments request s).outcome = .ok arguments)
    (validates : d.validator = some validator)
    (run : validator s.route.name arguments = .panicked payload) :
    (d.conclude request s context).value = .failed := by
  rw [value_conclude_of_needsHandler needed, bound]
  simp [validate, validates, run]

/-- A refusal is concluded with the messages that it gives. -/
theorem value_conclude_of_refuses {s : Selection} {context : Context} {messages : List String}
    (h : d.Refuses request s messages) :
    (d.conclude request s context).value = .refused messages := by
  cases h with
  | unbound needed outcome => rw [value_conclude_of_needsHandler needed, outcome]
  | @rejected validator arguments _ needed bound validates run ne =>
      obtain ⟨message, rest, rfl⟩ := List.exists_cons_of_ne_nil ne
      rw [value_conclude_of_needsHandler needed, bound]
      simp [validate, validates, run]

/-- A failure before there is a value is replied to as an error. -/
theorem exists_ownReply_of_failed
    (h : (d.conclude request (d.selection request) (d.hookedContext request id)).value
      = .failed) :
    ∃ r, (d.ownReply request id).value = .returned r ∧ r.outcome = .handlerFailed ∧
      r.status = 500 := by
  rw [ownReply_eq, Journal.value_bind, h]
  exact ⟨_, rfl, outcome_errorReply .., status_errorReply ..⟩

/-- **Every stage but the post-processors is contained**: its failure is replied to as an
error inside, whatever the translator makes of the report. -/
theorem exists_ownReply_of_fails {outcome : Outcome} {status : Nat}
    (h : d.Fails request id outcome status) :
    ∃ r, (d.ownReply request id).value = .returned r ∧ r.outcome = outcome ∧
      r.status = status := by
  cases h with
  | validator needed bound validates run =>
      exact exists_ownReply_of_failed
        (value_conclude_of_validator_panicked needed bound validates run)
  | handlerError admits handler call =>
      refine exists_ownReply_of_failed ?_
      rw [conclude_of_admits admits]
      simp [invoke, handler, call]
  | handlerPanic admits handler call =>
      refine exists_ownReply_of_failed ?_
      rw [conclude_of_admits admits]
      simp [invoke, handler, call]
  | @translator result failure produces run =>
      obtain ⟨value, after, count, returns, target, processed⟩ := produces
      have hvalue := value_conclude_eq_value_iff.2 ⟨returns, target⟩
      have hresult := processed.value_postProcess 0
      -- the reply may be the fixed text, if the report cannot be encoded either
      refine ⟨(encode (d.translator request) (d.selection request) result).value, ?_, ?_, ?_⟩
      · rw [ownReply_eq, Journal.value_bind, hvalue, reply, Journal.value_bind, hresult]
        rfl
      · rw [encode, run]
        exact outcome_errorReply ..
      · rw [encode, run]
        exact status_errorReply ..
  | report refuses run =>
      rw [ownReply_eq, Journal.value_bind, value_conclude_of_refuses refuses]
      exact ⟨_, rfl, outcome_errorReply .., status_errorReply ..⟩

/-! ### Panics that escape -/

/-- **Only a panic of a post-processor escapes**, and every one does. -/
theorem value_ownReply_eq_panicked_iff :
    (d.ownReply request id).value = .panicked payload ↔ d.Escapes request id payload := by
  rw [ownReply_eq, Journal.value_bind]
  constructor
  · intro h
    obtain ⟨value, after, count, returns, target, processed, -⟩ :=
      exists_processed_of_panicked h
    exact ⟨value, after, count, returns, target, processed⟩
  · rintro ⟨value, after, count, returns, target, processed⟩
    rw [value_conclude_eq_value_iff.2 ⟨returns, target⟩, reply, Journal.value_bind,
      processed.value_postProcess 0]
    rfl

/-! ### The whole dispatch -/

/-- A request that is worked on is completed as the dispatcher replies itself. -/
theorem completion_of_worksOn {now : Rat} {fresh : RequestId}
    (works : d.WorksOn now request (requestId request fresh)) :
    (d.dispatch now fresh request).completion =
      match (d.ownReply request (requestId request fresh)).value with
      | .returned r => .returned (d.afterHooks request (r.toResponse (requestId request fresh)))
      | .panicked payload => .panicked payload := by
  obtain ⟨permitted, unanswered⟩ := works
  rw [completion_dispatch, answer_of_not_turnsAway request _ permitted]
  cases hown : (d.ownReply request (requestId request fresh)).value with
  | returned r => rw [serve_of_returned unanswered hown]
  | panicked payload => rw [serve_of_panicked unanswered hown]

/-- A request that is not worked on gets a response. -/
theorem exists_returned_of_not_worksOn {now : Rat} {fresh : RequestId}
    (h : ¬ d.WorksOn now request (requestId request fresh)) :
    ∃ response, (d.dispatch now fresh request).completion = .returned response := by
  rw [completion_dispatch]
  by_cases hlimit : d.TurnsAway now
  · rw [answer_of_turnsAway request _ hlimit]
    exact ⟨_, rfl⟩
  · rw [answer_of_not_turnsAway request _ hlimit]
    cases hearly : earliest (d.hookAnswers request (requestId request fresh)) with
    | none => exact absurd ⟨hlimit, earliest_eq_none_iff.1 hearly⟩ h
    | some reply =>
        rw [serve_of_answered hearly]
        exact ⟨_, rfl⟩

/-- **What every dispatch makes of a failure.**  It ends without a response exactly if a
post-processor panics over a request that is worked on.  The failure of every other stage
over such a request is replied to, with the outcome and the status that say what failed. -/
theorem containment_of_dispatch (d : Dispatcher) (now : Rat) (fresh : RequestId)
    (request : Request) :
    (∀ payload, (d.dispatch now fresh request).completion = .panicked payload ↔
      d.WorksOn now request (requestId request fresh) ∧
        d.Escapes request (requestId request fresh) payload) ∧
    (∀ outcome status, d.WorksOn now request (requestId request fresh) →
      d.Fails request (requestId request fresh) outcome status →
      ∃ r : Reply, (d.dispatch now fresh request).completion
          = .returned (d.afterHooks request (r.toResponse (requestId request fresh))) ∧
        r.outcome = outcome ∧ r.status = status) := by
  constructor
  · intro payload
    by_cases works : d.WorksOn now request (requestId request fresh)
    · rw [completion_of_worksOn works, ← value_ownReply_eq_panicked_iff, and_iff_right works]
      cases (d.ownReply request (requestId request fresh)).value with
      | returned r => exact ⟨nofun, nofun⟩
      | panicked payload' => simp
    · obtain ⟨response, hresponse⟩ := exists_returned_of_not_worksOn works
      rw [hresponse]
      exact ⟨nofun, fun h => absurd h.1 works⟩
  · intro outcome status works fails
    obtain ⟨r, hr, houtcome, hstatus⟩ := exists_ownReply_of_fails fails
    refine ⟨r, ?_, houtcome, hstatus⟩
    rw [completion_of_worksOn works, hr]

/-- A validator that panics is answered for, and a post-processor that does is not. -/
theorem containment_of_dispatch_reports :
    let route (name text : String) (segments : List Segment) (run : Handler) : Route :=
      ⟨.get, ⟨text, segments⟩, name, [], some (.handler run), false⟩
    let write : Handler := fun _ context => (.returned (.ok (.string "written")), context)
    let validator : Validator := fun name _ =>
      if name = "lost" then .panicked (.text "no data") else .returned []
    let d : Dispatcher :=
      { ofRoutes
          (.ofRoutes
            [route "weekly" "/reports" [.literal "reports"] write,
              route "lost" "/reports/lost" [.literal "reports", .literal "lost"] write]
            (route "not_found" "/404" [.literal "404"] RoutePlan.defaultNotFound))
          Registry.builtIn with
        validator := some validator
        postProcessors := [⟨0, fun _ _ => .panicked (.text "out of range")⟩] }
    let id : RequestId := ⟨0, by decide⟩
    let shown : Request := .ofPath .get "/reports"
    let failing : Request := .ofPath .get "/reports/lost"
    ((d.dispatch 0 id shown).completion = .panicked (.text "out of range") ∧
      d.Escapes shown id (.text "out of range")) ∧
    d.WorksOn 0 failing id ∧ d.Fails failing id .handlerFailed 500 ∧
      ∃ r : Reply, (d.dispatch 0 id failing).completion
          = .returned (d.afterHooks failing (r.toResponse id)) ∧
        r.outcome = .handlerFailed ∧ r.status = 500 := by
  intro route write validator d id shown failing
  have hpanic : (d.dispatch 0 id shown).completion = .panicked (.text "out of range") := by
    decide +kernel
  have hshown : requestId shown id = id := by decide +kernel
  have hfailing : requestId failing id = id := by decide +kernel
  have hescapes := ((containment_of_dispatch d 0 id shown).1 _).1 hpanic
  rw [hshown] at hescapes
  have works : d.WorksOn 0 failing id := by
    refine ⟨?_, ?_⟩
    · rintro ⟨limiter, hlimiter, -⟩
      cases hlimiter
    · intro answer hanswer
      exact absurd hanswer List.not_mem_nil
  have needed : NeedsHandler failing (d.selection failing) :=
    { notMoved := by decide +kernel
      notUnchanged := by decide +kernel }
  have bound : (arguments failing (d.selection failing)).outcome = .ok ⟨[]⟩ := by
    decide +kernel
  have panics : validator (d.selection failing).route.name ⟨[]⟩ = .panicked (.text "no data") := by
    decide +kernel
  have fails : d.Fails failing id .handlerFailed 500 := .validator needed bound rfl panics
  have hcontained := (containment_of_dispatch d 0 id failing).2 .handlerFailed 500
  rw [hfailing] at hcontained
  exact ⟨⟨hpanic, hescapes.2⟩, works, fails, hcontained works fails⟩

end Dispatcher

end HttpDispatch
