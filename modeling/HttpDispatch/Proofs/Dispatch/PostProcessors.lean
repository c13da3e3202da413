import HttpDispatch.Proofs.Dispatch.Calls
import HttpDispatch.Proofs.StableOrder

/-!
# The order of post-processors

A dispatcher is set up in steps, and with every post-processor that it is given it sorts the
processors it has.  `Dispatcher.arranged_setUp` says what comes of that: they stand as if the
whole sequence of registrations had been sorted once, by ascending order and, where the orders
are equal, as they were registered.  One step keeps the processors arranged
(`Dispatcher.arranged_add`), so no number of later steps disturbs them.

The second half is about a value that a handler has returned: `Dispatcher.passes_of_due` says
that a dispatch passes it through the processors in that order, to each of them once.

### Design notes

**A redirect.**  A value that comes with the wish for a redirect is not answered with, and is
shown to no processor.  `Dispatcher.ProcessingDue` leaves it out.

**Panics.**  A processor that panics is the last that is called.  `Dispatcher.Passes` keeps the
two ways apart, and a dispatch that returns has called them all.
-/

namespace HttpDispatch

namespace Dispatcher

open StableOrder

/-! ### Setting up -/

/-- **One step of setting up** a dispatcher. -/
inductive Addition where
  /-- Limit the rate. -/
  | limiter (limiter : RateLimiter)
  /-- Validate arguments. -/
  | validator (validator : Validator)
  /-- Add a hook. -/
  | middleware (middleware : Middleware)
  /-- Add a post-processor. -/
  | postProcessor (processor : PostProcessor)

/-- The post-processor that a step registers, if it does. -/
def Addition.postProcessor? : Addition → Option PostProcessor
  | postProcessor p => some p
  | limiter _ | validator _ | middleware _ => none

/-- Take one step. -/
def add (d : Dispatcher) : Addition → Dispatcher
  | .limiter limiter => d.withLimiter limiter
  | .validator validator => d.withValidator validator
  | .middleware m => d.addMiddleware m
  | .postProcessor p => d.addPostProcessor p

/-- **Set up** a dispatcher, step by step. -/
def setUp (d : Dispatcher) (additions : List Addition) : Dispatcher := additions.foldl add d

/-- **The post-processors that are registered**, in the order of registration. -/
def registered (additions : List Addition) : List PostProcessor :=
  additions.filterMap Addition.postProcessor?

variable {d : Dispatcher} {ps : List PostProcessor}

/-- **One step keeps the processors arranged**, and puts a new one where it belongs. -/
theorem arranged_add (arranged : Arranged PostProcessor.order ps d.postProcessors)
    (a : Addition) :
    Arranged PostProcessor.order (ps ++ a.postProcessor?.toList) (d.add a).postProcessors := by
  cases a with
  | limiter | validator | middleware =>
      rw [Addition.postProcessor?, Option.toList_none, List.append_nil]
      exact arranged
  | postProcessor p => exact arranged.mergeSort_append [p]

/-- **However a dispatcher is set up, its processors are arranged.** -/
theorem arranged_setUp (arranged : Arranged PostProcessor.order ps d.postProcessors)
    (additions : List Addition) :
    Arranged PostProcessor.order (ps ++ registered additions)
      (d.setUp additions).postProcessors := by
  induction additions generalizing d ps with
  | nil => simpa [registered, setUp] using arranged
  | cons a additions ih =>
      have hrest := ih (arranged_add arranged a)
      have hregistered : registered (a :: additions)
          = a.postProcessor?.toList ++ registered additions := by
        cases a <;> rfl
      rwa [List.append_assoc, ← hregistered] at hrest

/-! ### A value on its way -/

/-- **A dispatch passes a value through some processors**, each given what the one before it
has returned. -/
inductive Passes (d : Dispatcher) (request : Request) (id : RequestId)
    (ps : List PostProcessor) (value : Json) (after : Context) :
    Completion Response → List Call → Prop
  /-- All processors are called, once each, and the result of the last is answered with. -/
  | through {result : Json} {reply : Reply}
      (processed : Processed after ps value ps.length (.returned result))
      (encoded : (encode (d.translator request) (d.selection request) result).value = reply) :
      Passes d request id ps value after
        (.returned (d.afterHooks request (reply.toResponse id)))
        (d.permitCalls ++ beforeCalls request 0 d.middlewares (startContext request id) ++
          .handler :: processorCalls ps.length ++
          afterCalls request 0 d.middlewares (reply.toResponse id))
  /-- One of them panics, and the dispatch with it. -/
  | panicked {count : Nat} {payload : PanicPayload}
      (processed : Processed after ps value count (.panicked payload)) :
      Passes d request id ps value after (.panicked payload)
        (d.permitCalls ++ beforeCalls request 0 d.middlewares (startContext request id) ++
          .handler :: processorCalls count)

variable {now : Rat} {fresh : RequestId} {request : Request} {value : Json} {after : Context}

/-- A value that the handler has returned, without asking for a redirect, is the conclusion,
and its one call is all that was made. -/
theorem conclude_of_returns {s : Selection} {context : Context}
    (returns : d.Returns request s context value after) (target : after.redirectTarget = none) :
    (d.conclude request s context).value = .value value after ∧
      (d.conclude request s context).calls = [.handler] := by
  refine ⟨value_conclude_eq_value_iff.2 ⟨returns, target⟩, ?_⟩
  obtain ⟨arguments, run, admits, handler, -⟩ := returns
  rw [conclude_of_admits admits]
  exact calls_invoke handler arguments

/-- **A value that is due is passed through the processors** of the dispatcher. -/
theorem passes_of_due (permitted : ¬ d.TurnsAway now)
    (due : d.ProcessingDue request (requestId request fresh) value after) :
    d.Passes request (requestId request fresh) d.postProcessors value after
      (d.dispatch now fresh request).completion (d.dispatch now fresh request).calls := by
  obtain ⟨unanswered, returns, target⟩ := due
  obtain ⟨hvalue, hhandler⟩ := conclude_of_returns returns target
  obtain ⟨count, processed, hcalls⟩ :=
    calls_reply_value (d := d) (d.translator request) (d.selection request) value after
  rw [completion_dispatch, calls_dispatch, answer_of_not_turnsAway request _ permitted]
  have hownCalls : (d.ownReply request (requestId request fresh)).calls
      = .handler :: processorCalls count := by
    rw [ownReply_eq, Journal.calls_bind, hhandler, hvalue, hcalls, List.singleton_append]
  have hown : (d.ownReply request (requestId request fresh)).value
      = (d.reply (d.translator request) (d.selection request) (.value value after)).value := by
    rw [ownReply_eq, Journal.value_bind, hvalue]
  rw [reply, Journal.value_bind] at hown
  cases hcompletion : (postProcess after 0 d.postProcessors value).value with
  | returned result =>
      rw [hcompletion] at processed hown
      have hcount := processed.count_of_returned
      rw [hcount] at processed
      have hpasses : d.Passes request (requestId request fresh) d.postProcessors value after
          _ _ := .through processed rfl
      rw [serve_of_returned unanswered hown, hownCalls, hcount]
      simpa using hpasses
  | panicked payload =>
      rw [hcompletion] at processed hown
      rw [serve_of_panicked unanswered hown, hownCalls]
      simpa using Passes.panicked processed

/-- **All registered processors run, once each, in ascending order**, and those of equal order as
they were registered: however a dispatcher without processors is set up, its processors are the
registered ones in one stable sort, and every value that is due is passed through exactly these.
If none of them panics, the dispatch returns. -/
theorem passes_of_setUp (bare : d.postProcessors = []) (additions : List Addition) :
    let e := d.setUp additions
    let sorted := (registered additions).mergeSort PostProcessor.precedes
    e.postProcessors = sorted ∧
      Arranged PostProcessor.order (registered additions) e.postProcessors ∧
      ∀ now id request value after, ¬ e.TurnsAway now →
        e.ProcessingDue request (requestId request id) value after →
          e.Passes request (requestId request id) sorted value after
              (e.dispatch now id request).completion (e.dispatch now id request).calls ∧
            ((∀ p ∈ registered additions, ∀ value context,
                ∃ next, p.process value context = .returned next) →
              ∃ response, (e.dispatch now id request).completion = .returned response) := by
  intro e sorted
  have hbare : Arranged PostProcessor.order [] d.postProcessors := by
    rw [bare]
    exact ⟨.nil, .nil, fun _ => rfl⟩
  have arranged : Arranged PostProcessor.order (registered additions) e.postProcessors :=
    arranged_setUp hbare additions
  have hsorted : e.postProcessors = sorted := arranged.eq_mergeSort
  refine ⟨hsorted, arranged, fun now id request value after permitted due => ?_⟩
  have hpasses := passes_of_due permitted due
  rw [hsorted] at hpasses
  refine ⟨hpasses, fun hreturn => ?_⟩
  generalize (e.dispatch now id request).completion = completion,
    (e.dispatch now id request).calls = calls at hpasses
  cases hpasses with
  | through => exact ⟨_, rfl⟩
  | panicked processed =>
      have hsortedReturn : ∀ p ∈ sorted, ∀ value context,
          ∃ next, p.process value context = .returned next :=
        fun p hp => hreturn p (List.mem_mergeSort.1 hp)
      obtain ⟨result, hresult⟩ := processed.exists_returned hsortedReturn
      cases hresult

/-- Of three processors the second to be registered runs first, and the two of equal order run as
they were registered, whatever else is set up in between. -/
theorem passes_of_setUp_report :
    let tag (order : Int) (name : String) : PostProcessor :=
      ⟨order, fun value _ => .returned (.array [.string name, value])⟩
    let route (pattern : Pattern) (name : String) (run : Handler) : Route :=
      ⟨.get, pattern, name, [], some (.handler run), false⟩
    let d : Dispatcher := ofRoutes
      (.ofRoutes
        [route ⟨"/report", [.literal "report"]⟩ "GET /report"
          fun _ context => (.returned (.ok (.string "weekly")), context)]
        (route ⟨"/404", [.literal "404"]⟩ "not_found" RoutePlan.defaultNotFound))
      Registry.builtIn
    let additions : List Addition :=
      [.postProcessor (tag 7 "one"), .middleware .idle, .postProcessor (tag (-3) "two"),
        .limiter (.start 1 0 0), .postProcessor (tag 7 "three")]
    let e : Dispatcher := d.setUp additions
    let request : Request := .ofPath .get "/report"
    let id : RequestId := ⟨0, by decide⟩
    let result : Json :=
      .array [.string "three", .array [.string "one", .array [.string "two", .string "weekly"]]]
    d.postProcessors = [] ∧ ¬ e.TurnsAway 0 ∧
      e.ProcessingDue request (requestId request id) (.string "weekly")
        (startContext request id) ∧
      e.postProcessors = [tag (-3) "two", tag 7 "one", tag 7 "three"] ∧
      (e.dispatch 0 id request).completion
        = .returned ((Reply.ofJson 200 result).toResponse id) := by
  intro tag route d additions e request id result
  -- an arrangement is known by its laws, and no sort has to be run
  have hthree : Arranged PostProcessor.order [tag 7 "one", tag (-3) "two", tag 7 "three"]
      [tag (-3) "two", tag 7 "one", tag 7 "three"] := by
    refine ⟨.swap .., by simp [tag], fun k => ?_⟩
    by_cases hseven : (7 : Int) = k
    · subst hseven
      rfl
    · by_cases hlow : (-3 : Int) = k
      · subst hlow
        rfl
      · simp [tag, hseven, hlow]
  have permitted : ¬ e.TurnsAway 0 := by
    rintro ⟨limiter, hlimiter, hrefused⟩
    cases hlimiter
    exact absurd hrefused (by decide +kernel)
  have hvalue : (e.conclude request (e.selection request)
      (e.hookedContext request (requestId request id))).value
        = .value (.string "weekly") (startContext request id) := by
    decide +kernel
  have due : e.ProcessingDue request (requestId request id) (.string "weekly")
      (startContext request id) :=
    ⟨fun _ hanswer => List.mem_singleton.1 hanswer, value_conclude_eq_value_iff.1 hvalue⟩
  obtain ⟨hsorted, harranged, hpasses⟩ := @passes_of_setUp d rfl additions
  have hprocessors := harranged.unique hthree
  refine ⟨rfl, permitted, due, hprocessors, ?_⟩
  have hreturn : ∀ p ∈ registered additions, ∀ value context,
      ∃ next, p.process value context = .returned next := by
    have hregistered : registered additions
        = [tag 7 "one", tag (-3) "two", tag 7 "three"] := rfl
    simp [hregistered, tag]
  obtain ⟨hthrough, hanswered⟩ := hpasses 0 id request _ _ permitted due
  obtain ⟨response, hresponse⟩ := hanswered hreturn
  rw [← hsorted, hprocessors, hresponse] at hthrough
  rw [hresponse]
  generalize (e.dispatch 0 id request).calls = calls at hthrough
  cases hthrough with
  | @through last reply processed encoded =>
      have hlast : result = last := Completion.returned.inj (processed.value_postProcess 0)
      have hreply : (encode (e.translator request) (e.selection request) result).value
          = Reply.ofJson 200 result := by
        decide +kernel
      have hid : requestId request id = id := by decide +kernel
      rw [← encoded, ← hlast, hreply, hid]
      rfl

end Dispatcher

end HttpDispatch
