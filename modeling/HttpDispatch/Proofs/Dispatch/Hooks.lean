import HttpDispatch.Dispatch.Dispatcher

/-!
# Around the work on a request

The hooks are shown the request one after the other, each in the context that the ones
before it have left, and later the response in the same order, each as the ones before it
have left it.  This module gives both loops in closed form and takes a service apart
around them.

* `Dispatcher.hookAnswers` — what each hook answers; the earliest answer is the reply
  (`Dispatcher.earlyReply_eq`), but all hooks see the request.
* `Dispatcher.hookedContext` — the context that the hooks leave to the handler.
* `Dispatcher.ownReply` — the reply of the dispatcher, for want of an answer.
* `Dispatcher.serve_of_answered`, `Dispatcher.serve_of_returned` and
  `Dispatcher.serve_of_panicked` — a whole service.
* `Dispatcher.answer_of_turnsAway`, `Dispatcher.answer_of_not_turnsAway` — the limiter
  in front of it.
-/

namespace HttpDispatch

namespace Dispatcher

/-! ### Before the request is routed -/

/-- The contexts that hooks see, in order, and last the one that they leave. -/
def contexts (request : Request) (ms : List Middleware) (context : Context) : List Context :=
  ms.scanl (fun context m => (m.before request context).2) context

theorem contexts_cons (request : Request) (m : Middleware) (ms : List Middleware)
    (context : Context) :
    contexts request (m :: ms) context
      = context :: contexts request ms (m.before request context).2 :=
  List.scanl_cons

/-- What hooks answer, in order. -/
def answers (request : Request) (ms : List Middleware) (context : Context) :
    List (Option Reply) :=
  List.zipWith (fun m context => (m.before request context).1) ms (contexts request ms context)

/-- The first hook sees the context as it is, the others what that hook leaves. -/
theorem answers_cons (request : Request) (m : Middleware) (ms : List Middleware)
    (context : Context) :
    answers request (m :: ms) context
      = (m.before request context).1 :: answers request ms (m.before request context).2 := by
  rw [answers, contexts_cons, List.zipWith_cons_cons]
  rfl

/-- The earliest of some answers. -/
def earliest (answers : List (Option Reply)) : Option Reply := answers.findSome? id

/-- The calls that show a request to hooks, counting from a position. -/
def beforeCalls (request : Request) (position : Nat) (ms : List Middleware)
    (context : Context) : List Call :=
  List.zipWith .before (List.range' position ms.length) (contexts request ms context)

/-- **All hooks see the request**, in order, and the earliest answer counts. -/
theorem runBefore_eq (request : Request) (position : Nat) (ms : List Middleware)
    (early : Option Reply) (context : Context) :
    runBefore request position ms early context =
      ⟨(early.or (earliest (answers request ms context)),
          ms.foldl (fun context m => (m.before request context).2) context), [],
        beforeCalls request position ms context⟩ := by
  -- each hook moves on the position, the reply so far and the context
  induction ms generalizing position early context with
  | nil => cases early <;> rfl
  | cons m ms ih =>
      have hearliest : earliest (answers request (m :: ms) context)
          = (m.before request context).1.or
              (earliest (answers request ms (m.before request context).2)) := by
        rw [answers_cons, earliest, List.findSome?_cons]
        cases (m.before request context).1 <;> rfl
      have hcalls : beforeCalls request position (m :: ms) context
          = .before position context
              :: beforeCalls request (position + 1) ms (m.before request context).2 := by
        rw [beforeCalls, contexts_cons, List.length_cons, List.range'_succ,
          List.zipWith_cons_cons]
        rfl
      rw [hearliest, hcalls, ← Option.or_assoc]
      simp only [runBefore, bind, Journal.call, ih, List.foldl_cons, List.nil_append,
        List.singleton_append]

/-! ### Before the response leaves -/

/-- The calls that show a response to hooks, counting from a position: each sees it as
the ones before it have left it. -/
def afterCalls (request : Request) (position : Nat) (ms : List Middleware)
    (response : Response) : List Call :=
  List.zipWith .after (List.range' position ms.length)
    (ms.scanl (fun response m => m.after request response) response)

/-- **All hooks see the response**, in order. -/
theorem runAfter_eq (request : Request) (position : Nat) (ms : List Middleware)
    (response : Response) :
    runAfter request position ms response =
      ⟨ms.foldl (fun response m => m.after request response) response, [],
        afterCalls request position ms response⟩ := by
  induction ms generalizing position response with
  | nil => rfl
  | cons m ms ih =>
      have hcalls : afterCalls request position (m :: ms) response
          = .after position response
              :: afterCalls request (position + 1) ms (m.after request response) := by
        rw [afterCalls, List.scanl_cons, List.length_cons, List.range'_succ,
          List.zipWith_cons_cons]
        rfl
      rw [hcalls]
      simp only [runAfter, bind, Journal.call, ih, List.foldl_cons, List.nil_append,
        List.singleton_append]

/-! ### A service around the hooks -/

/-- What the hooks answer to a request before it is routed. -/
def earlyReply (d : Dispatcher) (request : Request) (id : RequestId) : Option Reply :=
  (runBefore request 0 d.middlewares none (startContext request id)).value.1

/-- What the hooks make of a response. -/
def afterHooks (d : Dispatcher) (request : Request) (response : Response) : Response :=
  d.middlewares.foldl (fun response m => m.after request response) response

/-- The route that a request is served by. -/
def selection (d : Dispatcher) (request : Request) : Selection :=
  d.routes.select d.translators request.method request.path

/-- What the hooks of a dispatcher answer to a request, in order. -/
def hookAnswers (d : Dispatcher) (request : Request) (id : RequestId) :
    List (Option Reply) :=
  answers request d.middlewares (startContext request id)

/-- **The context that the hooks leave** to the handler. -/
def hookedContext (d : Dispatcher) (request : Request) (id : RequestId) : Context :=
  d.middlewares.foldl (fun context m => (m.before request context).2) (startContext request id)

/-- **What the dispatcher replies itself**, if no hook answers. -/
def ownReply (d : Dispatcher) (request : Request) (id : RequestId) :
    Journal (Completion Reply) :=
  d.respond request (d.hookedContext request id) (d.translator request)

/-- The dispatcher's own reply comes of the conclusion that it has reached. -/
theorem ownReply_eq (d : Dispatcher) (request : Request) (id : RequestId) :
    d.ownReply request id =
      d.conclude request (d.selection request) (d.hookedContext request id) >>=
        d.reply (d.translator request) (d.selection request) := rfl

variable {d : Dispatcher} {request : Request} {id : RequestId}

/-- The early reply is the earliest answer. -/
theorem earlyReply_eq (d : Dispatcher) (request : Request) (id : RequestId) :
    d.earlyReply request id = earliest (d.hookAnswers request id) := by
  rw [earlyReply, runBefore_eq]
  exact Option.none_or

theorem earliest_eq_none_iff {answers : List (Option Reply)} :
    earliest answers = none ↔ ∀ answer ∈ answers, answer = none :=
  List.findSome?_eq_none_iff

/-- **A service that a hook answers**: no other stage runs. -/
theorem serve_of_answered {reply : Reply}
    (h : earliest (d.hookAnswers request id) = some reply) :
    d.serve request id =
      ⟨.returned (d.afterHooks request (reply.toResponse id)), [],
        beforeCalls request 0 d.middlewares (startContext request id) ++
          afterCalls request 0 d.middlewares (reply.toResponse id)⟩ := by
  rw [hookAnswers] at h
  ext1
  all_goals simp [serve, runBefore_eq, h, runAfter_eq, afterHooks]

/-- **A service that no hook answers** and that ends in a reply of the dispatcher. -/
theorem serve_of_returned {reply : Reply}
    (h : ∀ answer ∈ d.hookAnswers request id, answer = none)
    (hreply : (d.ownReply request id).value = .returned reply) :
    d.serve request id =
      ⟨.returned (d.afterHooks request (reply.toResponse id)),
        (d.ownReply request id).events,
        beforeCalls request 0 d.middlewares (startContext request id) ++
          ((d.ownReply request id).calls ++
            afterCalls request 0 d.middlewares (reply.toResponse id))⟩ := by
  rw [← earliest_eq_none_iff, hookAnswers] at h
  rw [ownReply, hookedContext] at hreply ⊢
  ext1
  all_goals simp [serve, runBefore_eq, h, hreply, runAfter_eq, afterHooks]

/-- **A service that no hook answers** and that ends in a panic: the hooks do not see a
response. -/
theorem serve_of_panicked {payload : PanicPayload}
    (h : ∀ answer ∈ d.hookAnswers request id, answer = none)
    (hpanic : (d.ownReply request id).value = .panicked payload) :
    d.serve request id =
      ⟨.panicked payload, (d.ownReply request id).events,
        beforeCalls request 0 d.middlewares (startContext request id) ++
          (d.ownReply request id).calls⟩ := by
  rw [← earliest_eq_none_iff, hookAnswers] at h
  rw [ownReply, hookedContext] at hpanic ⊢
  ext1
  all_goals simp [serve, runBefore_eq, h, hpanic]

/-! ### The whole dispatch -/

/-- A dispatch is completed by the answer to its request. -/
theorem completion_dispatch (d : Dispatcher) (now : Rat) (fresh : RequestId)
    (request : Request) :
    (d.dispatch now fresh request).completion
      = (d.answer request (requestId request fresh) ((d.permit now).map Prod.fst)).value := rfl

/-- A dispatch makes the calls of the answer to its request. -/
theorem calls_dispatch (d : Dispatcher) (now : Rat) (fresh : RequestId) (request : Request) :
    (d.dispatch now fresh request).calls
      = (d.answer request (requestId request fresh) ((d.permit now).map Prod.fst)).calls := rfl

/-- **A request is turned away** if there is a limit and it refuses the permit. -/
def TurnsAway (d : Dispatcher) (now : Rat) : Prop :=
  ∃ limiter, d.limiter = some limiter ∧ (limiter.acquire now).1 = .refused

/-- The calls for a permit that is granted: one if there is a limit. -/
def permitCalls (d : Dispatcher) : List Call := d.limiter.toList.map fun _ => .permit true

/-- An error reply calls nothing. -/
theorem calls_errorReply (t : Translator) (status : Nat) (payload : Json)
    (outcome : Outcome) : (errorReply t status payload outcome).calls = [] := by
  unfold errorReply
  split <;> rfl

/-- **A request that is turned away** is answered at once. -/
theorem answer_of_turnsAway {now : Rat} (request : Request) (id : RequestId)
    (h : d.TurnsAway now) :
    d.answer request id ((d.permit now).map Prod.fst) =
      ⟨.returned ((throttledReply (d.translator request)).value.toResponse id),
        (throttledReply (d.translator request)).events, [.permit false]⟩ := by
  obtain ⟨limiter, hlimiter, hrefused⟩ := h
  have hcalls : (throttledReply (d.translator request)).calls = [] := calls_errorReply _ _ _ _
  ext1
  all_goals simp [permit, hlimiter, hrefused, answer, hcalls]

/-- **A request that is not turned away** is served. -/
theorem answer_of_not_turnsAway {now : Rat} (request : Request) (id : RequestId)
    (h : ¬ d.TurnsAway now) :
    d.answer request id ((d.permit now).map Prod.fst) =
      ⟨(d.serve request id).value, (d.serve request id).events,
        d.permitCalls ++ (d.serve request id).calls⟩ := by
  cases hlimiter : d.limiter with
  | none => simp [permit, permitCalls, hlimiter, answer]
  | some limiter =>
      cases hpermit : (limiter.acquire now).1 with
      | refused => exact absurd ⟨limiter, hlimiter, hpermit⟩ h
      | granted wait =>
          ext1
          all_goals simp [permit, permitCalls, hlimiter, hpermit, answer]

end Dispatcher

end HttpDispatch
