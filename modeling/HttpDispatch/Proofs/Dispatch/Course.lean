import HttpDispatch.Dispatch.Dispatcher

/-!
# The course of a request

Between the selection of a route and the reply a request can take one of nine courses.
This module lists them once, with the conditions under which each is taken and with all
that it leaves behind: the conclusion, the events and the calls
(`Dispatcher.Concludes`, `Dispatcher.concludes`).  What is said elsewhere about replies,
calls and events is a case analysis over this list.

Two of the conditions have names of their own, since they are what a client or a
maintainer asks about.

* A request is **admitted** to the handler (`Dispatcher.Admits`) if its route does not
  lead elsewhere, the client's copy does not do, the arguments can be bound and the
  validator has nothing against them.
* A request is **refused** with some messages (`Dispatcher.Refuses`) if binding fails or
  the validator objects.

The post-processors are described in the same way: `Dispatcher.Processed` relates a value
to what becomes of it and to the number of processors that were called.
-/

namespace HttpDispatch

namespace Dispatcher

/-! ### Conditions -/

/-- **The handler is needed**: the route does not lead elsewhere for good, and the client
has no copy that would do. -/
structure NeedsHandler (request : Request) (s : Selection) : Prop where
  /-- The route leads to a handler. -/
  notMoved : s.route.permanentRedirect? = none
  /-- The route is not static, or the client has no copy. -/
  notUnchanged : ¬ (s.route.isStatic = true ∧ hasCopy request = true)

/-- **A request is admitted to the handler** with some arguments. -/
structure Admits (d : Dispatcher) (request : Request) (s : Selection)
    (arguments : Arguments) : Prop extends NeedsHandler request s where
  /-- The arguments are bound without a violation. -/
  bound : (Dispatcher.arguments request s).outcome = .ok arguments
  /-- The validator, if there is one, returns no message. -/
  accepted : ∀ validator, d.validator = some validator →
    validator s.route.name arguments = .returned []

/-- **A request is refused** with some messages. -/
inductive Refuses (d : Dispatcher) (request : Request) (s : Selection) : List String → Prop
  /-- Binding the arguments fails. -/
  | unbound {violations : List Violation} (needed : NeedsHandler request s)
      (outcome : (arguments request s).outcome = .error violations) :
      Refuses d request s (violations.map Violation.message)
  /-- The validator objects to them. -/
  | rejected {validator : Validator} {arguments : Arguments} {messages : List String}
      (needed : NeedsHandler request s)
      (bound : (Dispatcher.arguments request s).outcome = .ok arguments)
      (validates : d.validator = some validator)
      (run : validator s.route.name arguments = .returned messages) (ne : messages ≠ []) :
      Refuses d request s messages

/-- **The handler returns a value** and leaves a context: the request is admitted to the
handler of its route, which is called with the bound arguments. -/
def Returns (d : Dispatcher) (request : Request) (s : Selection) (context : Context)
    (value : Json) (after : Context) : Prop :=
  ∃ arguments run, d.Admits request s arguments ∧ s.route.handler? = some run ∧
    run arguments context = (.returned (.ok value), after)

/-! ### The courses -/

/-- The events about values that were skipped while arguments were bound. -/
def skippedEvents (request : Request) (s : Selection) : List LogEvent :=
  (arguments request s).skipped.map .skipped

/-- The event about a value that a redirect has made useless. -/
def discardEvents (name : String) (value : Json) : List LogEvent :=
  if value.isNull then [] else [.resultDiscarded name]

/-- **The courses of a request** for a selected route, each with its conclusion, its events
and its calls. -/
inductive Concludes (d : Dispatcher) (request : Request) (s : Selection)
    (context : Context) : Conclusion → List LogEvent → List Call → Prop
  /-- The route leads elsewhere for good. -/
  | moved {location : String} (target : s.route.permanentRedirect? = some location) :
      Concludes d request s context (.moved location) [] []
  /-- The client has a copy of what is static. -/
  | unchanged (notMoved : s.route.permanentRedirect? = none)
      (static : s.route.isStatic = true) (copy : hasCopy request = true) :
      Concludes d request s context .unchanged [] []
  /-- The arguments are refused. -/
  | refused {messages : List String} (refuses : d.Refuses request s messages) :
      Concludes d request s context (.refused messages) (skippedEvents request s) []
  /-- The validator panics. -/
  | validatorPanicked {validator : Validator} {arguments : Arguments}
      {payload : PanicPayload} (needed : NeedsHandler request s)
      (bound : (Dispatcher.arguments request s).outcome = .ok arguments)
      (validates : d.validator = some validator)
      (run : validator s.route.name arguments = .panicked payload) :
      Concludes d request s context .failed
        (skippedEvents request s ++ [.validatorPanicked s.route.name payload]) []
  /-- There is no handler to call. -/
  | handlerMissing {arguments : Arguments} (admits : d.Admits request s arguments)
      (missing : s.route.handler? = none) :
      Concludes d request s context .failed
        (skippedEvents request s ++ [.handlerMissing s.route.name]) []
  /-- The handler ends with an error. -/
  | handlerFailed {arguments : Arguments} {run : Handler} {error : HandlerError}
      {after : Context} (admits : d.Admits request s arguments)
      (handler : s.route.handler? = some run)
      (call : run arguments context = (.returned (.error error), after)) :
      Concludes d request s context .failed
        (skippedEvents request s ++ [.handlerFailed s.route.name error.message]) [.handler]
  /-- The handler panics. -/
  | handlerPanicked {arguments : Arguments} {run : Handler} {payload : PanicPayload}
      {after : Context} (admits : d.Admits request s arguments)
      (handler : s.route.handler? = some run)
      (call : run arguments context = (.panicked payload, after)) :
      Concludes d request s context .failed
        (skippedEvents request s ++ [.handlerPanicked s.route.name payload]) [.handler]
  /-- The handler asks for a redirect. -/
  | detour {value : Json} {after : Context} {location : String}
      (returns : d.Returns request s context value after)
      (target : after.redirectTarget = some location) :
      Concludes d request s context (.detour location)
        (skippedEvents request s ++ discardEvents s.route.name value) [.handler]
  /-- The handler returns a value to be encoded. -/
  | value {value : Json} {after : Context} (returns : d.Returns request s context value after)
      (target : after.redirectTarget = none) :
      Concludes d request s context (.value value after) (skippedEvents request s) [.handler]

variable {d : Dispatcher} {request : Request} {s : Selection} {context : Context}

/-- The courses of a request that is admitted to the handler. -/
theorem concludes_of_admits {arguments : Arguments}
    (admits : d.Admits request s arguments) :
    d.Concludes request s context (invoke s.route arguments context).value
      (skippedEvents request s ++ (invoke s.route arguments context).events)
      (invoke s.route arguments context).calls := by
  cases hhandler : s.route.handler? with
  | none => simpa [invoke, hhandler] using Concludes.handlerMissing admits hhandler
  | some run =>
      rcases hcall : run arguments context with ⟨(error | value) | payload, after⟩
      · simpa [invoke, hhandler, hcall] using Concludes.handlerFailed admits hhandler hcall
      · have returns : d.Returns request s context value after :=
          ⟨arguments, run, admits, hhandler, hcall⟩
        cases htarget : after.redirectTarget with
        | none =>
            simpa [invoke, hhandler, hcall, returned, htarget] using
              Concludes.value returns htarget
        | some location =>
            have hdetour := Concludes.detour returns htarget
            by_cases hnull : value.isNull = true
            · simpa [invoke, hhandler, hcall, returned, htarget, hnull, discardEvents]
                using hdetour
            · simpa [invoke, hhandler, hcall, returned, htarget, hnull, discardEvents]
                using hdetour
      · simpa [invoke, hhandler, hcall] using Concludes.handlerPanicked admits hhandler hcall

/-- The courses of a request whose arguments are bound. -/
theorem concludes_of_bound {arguments : Arguments} (needed : NeedsHandler request s)
    (bound : (Dispatcher.arguments request s).outcome = .ok arguments) :
    d.Concludes request s context (d.validate s.route arguments context).value
      (skippedEvents request s ++ (d.validate s.route arguments context).events)
      (d.validate s.route arguments context).calls := by
  cases hvalidator : d.validator with
  | none =>
      have admits : d.Admits request s arguments :=
        ⟨needed, bound, fun validator h => by rw [hvalidator] at h; cases h⟩
      simpa [validate, hvalidator] using concludes_of_admits admits
  | some validator =>
      cases hrun : validator s.route.name arguments with
      | panicked payload =>
          simpa [validate, hvalidator, hrun] using
            Concludes.validatorPanicked needed bound hvalidator hrun
      | returned messages =>
          cases messages with
          | nil =>
              have admits : d.Admits request s arguments :=
                ⟨needed, bound, fun _ h => by rw [hvalidator] at h; cases h; exact hrun⟩
              simpa [validate, hvalidator, hrun] using concludes_of_admits admits
          | cons message messages =>
              simpa [validate, hvalidator, hrun] using Concludes.refused
                (.rejected needed bound hvalidator hrun (List.cons_ne_nil _ _))

/-- **Every request takes one of the courses.** -/
theorem concludes (d : Dispatcher) (request : Request) (s : Selection) (context : Context) :
    d.Concludes request s context (d.conclude request s context).value
      (d.conclude request s context).events (d.conclude request s context).calls := by
  cases htarget : s.route.permanentRedirect? with
  | some location => simpa [conclude, htarget] using Concludes.moved htarget
  | none =>
      by_cases hcopy : s.route.isStatic = true ∧ hasCopy request = true
      · simpa [conclude, htarget, hcopy.1, hcopy.2] using
          Concludes.unchanged htarget hcopy.1 hcopy.2
      have needed : NeedsHandler request s := ⟨htarget, hcopy⟩
      have hneeded : (s.route.isStatic && hasCopy request) = false := by
        simpa using hcopy
      cases houtcome : (arguments request s).outcome with
      | error violations =>
          simpa [conclude, htarget, hneeded, houtcome, skippedEvents] using
            Concludes.refused (.unbound needed houtcome)
      | ok arguments =>
          simpa [conclude, htarget, hneeded, houtcome, skippedEvents] using
            concludes_of_bound needed houtcome

/-! ### Conditions decide -/

/-- A request that is admitted ends as its handler ends. -/
theorem conclude_of_admits {arguments : Arguments} (admits : d.Admits request s arguments) :
    d.conclude request s context =
      ⟨(invoke s.route arguments context).value,
        skippedEvents request s ++ (invoke s.route arguments context).events,
        (invoke s.route arguments context).calls⟩ := by
  have hneeded : (s.route.isStatic && hasCopy request) = false := by
    simpa using admits.notUnchanged
  have hvalidate : d.validate s.route arguments context = invoke s.route arguments context := by
    cases hvalidator : d.validator with
    | none => simp [validate, hvalidator]
    | some validator => simp [validate, hvalidator, admits.accepted validator hvalidator]
  ext1
  all_goals simp [conclude, admits.notMoved, hneeded, admits.bound, hvalidate, skippedEvents]

/-- A value is the conclusion exactly if the handler has returned it without asking for a
redirect. -/
theorem value_conclude_eq_value_iff {value : Json} {after : Context} :
    (d.conclude request s context).value = .value value after ↔
      d.Returns request s context value after ∧ after.redirectTarget = none := by
  constructor
  · intro h
    have course := concludes d request s context
    rw [h] at course
    generalize (d.conclude request s context).events = events,
      (d.conclude request s context).calls = calls at course
    cases course with
    | value returns target => exact ⟨returns, target⟩
  · rintro ⟨⟨arguments, run, admits, handler, call⟩, target⟩
    rw [conclude_of_admits admits]
    simp [invoke, handler, call, returned, target]

/-! ### Post-processors -/

/-- **What becomes of a value**: each post-processor is given what the one before it
returned, up to the first that panics.  The number says how many were called. -/
inductive Processed (context : Context) :
    List PostProcessor → Json → Nat → Completion Json → Prop
  | nil (value : Json) : Processed context [] value 0 (.returned value)
  | cons {p : PostProcessor} {ps : List PostProcessor} {value next : Json} {count : Nat}
      {completion : Completion Json} (process : p.process value context = .returned next)
      (rest : Processed context ps next count completion) :
      Processed context (p :: ps) value (count + 1) completion
  | panicked {p : PostProcessor} {ps : List PostProcessor} {value : Json}
      {payload : PanicPayload} (process : p.process value context = .panicked payload) :
      Processed context (p :: ps) value 1 (.panicked payload)

/-- The processors that are called: as many as are said, in order. -/
theorem exists_processed (context : Context) (position : Nat) (ps : List PostProcessor)
    (value : Json) :
    ∃ count, Processed context ps value count (postProcess context position ps value).value ∧
      (postProcess context position ps value).events = [] ∧
      (postProcess context position ps value).calls
        = (List.range' position count).map .postProcessor := by
  induction ps generalizing position value with
  | nil => exact ⟨0, .nil value, rfl, rfl⟩
  | cons p ps ih =>
      cases hprocess : p.process value context with
      | panicked payload =>
          refine ⟨1, ?_⟩
          simpa [postProcess, hprocess] using Processed.panicked hprocess
      | returned next =>
          obtain ⟨count, hrest, hevents, hcalls⟩ := ih (position + 1) next
          refine ⟨count + 1, ?_⟩
          simpa [postProcess, hprocess, hevents, hcalls, List.range'_succ] using
            Processed.cons hprocess hrest

section Processed

variable {ps : List PostProcessor} {value : Json} {count : Nat}

/-- What becomes of a value is what the processors make of it. -/
theorem Processed.value_postProcess {completion : Completion Json}
    (h : Processed context ps value count completion) (position : Nat) :
    (postProcess context position ps value).value = completion := by
  induction h generalizing position with
  | nil => rfl
  | cons process rest ih => simp [postProcess, process, ih]
  | panicked process => simp [postProcess, process]

/-- A value that comes out has been through all processors. -/
theorem Processed.count_of_returned {result : Json}
    (h : Processed context ps value count (.returned result)) : count = ps.length := by
  generalize hcompletion : Completion.returned result = completion at h
  induction h with
  | nil => rfl
  | cons _ _ ih => rw [ih hcompletion, List.length_cons]
  | panicked => cases hcompletion

/-- If all processors return, a value comes out. -/
theorem Processed.exists_returned {completion : Completion Json}
    (hreturn : ∀ p ∈ ps, ∀ value context, ∃ next, p.process value context = .returned next)
    (h : Processed context ps value count completion) :
    ∃ result, completion = .returned result := by
  induction h with
  | nil value => exact ⟨value, rfl⟩
  | cons _ _ ih => exact ih fun p hp => hreturn p (List.mem_cons_of_mem _ hp)
  | @panicked p ps value payload process =>
      obtain ⟨next, hnext⟩ := hreturn p (List.mem_cons_self ..) value context
      rw [hnext] at process
      cases process

end Processed

end Dispatcher

end HttpDispatch
