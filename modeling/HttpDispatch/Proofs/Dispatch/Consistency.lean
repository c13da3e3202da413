import HttpDispatch.Proofs.Dispatch.Course
import HttpDispatch.Proofs.Dispatch.Hooks

/-!
# Outcome, status, media type and content agree

A reply tells four times how a dispatch went: by its outcome, its status, its media type
and its content.  They are set in about a dozen places, among them the reply to an error
that occurs while another error is being reported.  `Dispatcher.Agrees` says what they
have to do with each other and with the request, and `Dispatcher.agrees_of_dispatch` that
they do so after every dispatch.

The statements go along the stages: `agrees_errorReply` for every error, `agrees_encode`
for the value of a handler, `agrees_reply` for whatever the work on a request has led to.
-/

namespace HttpDispatch

/-! ### What is to agree -/

/-- The statuses that go with an outcome; for redirects there are two. -/
def Outcome.statuses : Outcome → List Nat
  | ok => [200]
  | redirect => [301, 302]
  | notModified => [304]
  | notFound => [404]
  | validationFailed => [400]
  | handlerFailed | serializationFailed => [500]
  | throttled => [429]

/-- Whether an outcome is an error. -/
def Outcome.isError : Outcome → Bool
  | validationFailed | handlerFailed | serializationFailed | throttled => true
  | ok | redirect | notModified | notFound => false

/-- A reply carries what a translator makes of a value. -/
def Reply.Encodes (r : Reply) (t : Translator) (value : Json) : Prop :=
  ∃ bytes, t.run value = .ok bytes ∧ r.mediaType = t.mediaType ∧ r.content = .bytes bytes

/-- A reply carries a fixed text, since a translator can make nothing of a value. -/
def Reply.FallsBack (r : Reply) (t : Translator) (value : Json) : Prop :=
  ∃ failure, t.run value = .error failure ∧ r.mediaType = "text/plain" ∧
    r.content = .bytes (Utf8.encode "Internal Server Error".toList)

namespace Dispatcher

/-- **The value that is to be sent**: the one that the handler returned, after all
post-processors. -/
def Produces (d : Dispatcher) (request : Request) (id : RequestId) (result : Json) : Prop :=
  ∃ value after count,
    d.Returns request (d.selection request) (d.hookedContext request id) value after ∧
    after.redirectTarget = none ∧
    Processed after d.postProcessors value count (.returned result)

/-- **Where a client is sent**: for good by its route, or for now by the handler. -/
inductive LeadsTo (d : Dispatcher) (request : Request) (id : RequestId) : String → Bool → Prop
  | forGood {location : String}
      (target : (d.selection request).route.permanentRedirect? = some location) :
      LeadsTo d request id location true
  | forNow {value : Json} {after : Context} {location : String}
      (returns : d.Returns request (d.selection request) (d.hookedContext request id)
        value after)
      (target : after.redirectTarget = some location) :
      LeadsTo d request id location false

/-- **The payload that an error is reported by.** -/
inductive Reports (d : Dispatcher) (now : Rat) (request : Request) (id : RequestId) :
    Outcome → Json → Prop
  | refused {messages : List String}
      (refuses : d.Refuses request (d.selection request) messages) :
      Reports d now request id .validationFailed
        (.ofMembers [("error", .string "Bad Request"), ("messages", .ofTexts messages)])
  | failed {events : List LogEvent} {calls : List Call}
      (course : d.Concludes request (d.selection request) (d.hookedContext request id)
        .failed events calls) :
      Reports d now request id .handlerFailed
        (.ofMembers [("error", .string "Internal Server Error")])
  | notEncoded {result : Json} {failure : Translator.Failure}
      (produces : d.Produces request id result)
      (run : (d.translator request).run result = .error failure) :
      Reports d now request id .serializationFailed
        (.ofMembers [("error", .string "Internal Server Error")])
  | throttled (limit : d.TurnsAway now) : Reports d now request id .throttled
      (.ofMembers [("error", .string "Too Many Requests")])

/-- **The parts of a reply agree** with each other and with the request. -/
structure Agrees (d : Dispatcher) (now : Rat) (request : Request) (id : RequestId)
    (r : Reply) : Prop where
  /-- The status is one of the outcome. -/
  status : r.status ∈ r.outcome.statuses
  /-- A redirect is for good exactly if the status says so. -/
  permanent : ∀ location permanent, r.content = .redirect location permanent →
    (permanent = true ↔ r.status = 301)
  /-- There are bytes unless the client is sent elsewhere or its copy will do. -/
  bytes : (∃ bytes, r.content = .bytes bytes) ↔
    r.outcome ≠ .redirect ∧ r.outcome ≠ .notModified
  /-- A redirect has no media type, and leads where the route or the handler says. -/
  redirect : r.outcome = .redirect → r.mediaType = "" ∧
    ∃ location permanent, r.content = .redirect location permanent ∧
      d.LeadsTo request id location permanent
  /-- The client's copy will do only if it has one of what is static. -/
  notModified : r.outcome = .notModified → r.mediaType = "" ∧ r.content = .notModified ∧
    (d.selection request).route.isStatic = true ∧ hasCopy request = true
  /-- A success is an encoding of the value, and says whether a route matched. -/
  value : r.outcome = .ok ∨ r.outcome = .notFound →
    (r.outcome = .notFound ↔ (d.selection request).isNotFound = true) ∧
    ∃ result, d.Produces request id result ∧ r.Encodes (d.translator request) result
  /-- An error is an encoding of its payload, or the fixed text if there is none. -/
  error : r.outcome.isError = true → ∃ payload, d.Reports now request id r.outcome payload ∧
    (r.Encodes (d.translator request) payload ∨ r.FallsBack (d.translator request) payload)

variable {d : Dispatcher} {now : Rat} {request : Request} {id : RequestId}

/-! ### One stage after the other -/

theorem agrees_redirect {location : String} {permanent : Bool}
    (leads : d.LeadsTo request id location permanent) :
    d.Agrees now request id (.redirect location permanent) where
  status := by cases permanent <;> simp [Reply.redirect, Outcome.statuses]
  permanent := by
    rintro _ _ ⟨rfl, rfl⟩
    cases permanent <;> simp [Reply.redirect]
  bytes := by simp [Reply.redirect]
  redirect := fun _ => ⟨rfl, location, permanent, rfl, leads⟩
  notModified := nofun
  value := nofun
  error := nofun

theorem agrees_notModified (static : (d.selection request).route.isStatic = true)
    (copy : hasCopy request = true) : d.Agrees now request id .notModified where
  status := List.mem_singleton_self 304
  permanent := nofun
  bytes := by simp [Reply.notModified]
  redirect := nofun
  notModified := fun _ => ⟨rfl, rfl, static, copy⟩
  value := nofun
  error := nofun

/-- A reply with bytes agrees if its status is one of its outcome and the bytes are what
they should be. -/
theorem agrees_of_bytes {r : Reply} {bytes : List UInt8} (hcontent : r.content = .bytes bytes)
    (hstatus : r.status ∈ r.outcome.statuses) (hredirect : r.outcome ≠ .redirect)
    (hnotModified : r.outcome ≠ .notModified)
    (hvalue : r.outcome = .ok ∨ r.outcome = .notFound →
      (r.outcome = .notFound ↔ (d.selection request).isNotFound = true) ∧
      ∃ result, d.Produces request id result ∧ r.Encodes (d.translator request) result)
    (herror : r.outcome.isError = true → ∃ payload, d.Reports now request id r.outcome payload ∧
      (r.Encodes (d.translator request) payload ∨
        r.FallsBack (d.translator request) payload)) :
    d.Agrees now request id r where
  status := hstatus
  permanent := by
    intro location permanent h
    rw [hcontent] at h
    cases h
  bytes := ⟨fun _ => ⟨hredirect, hnotModified⟩, fun _ => ⟨bytes, hcontent⟩⟩
  redirect := fun h => absurd h hredirect
  notModified := fun h => absurd h hnotModified
  value := hvalue
  error := herror

/-- An error reply has the outcome that it is given. -/
theorem outcome_errorReply (t : Translator) (status : Nat) (payload : Json)
    (outcome : Outcome) : (errorReply t status payload outcome).value.outcome = outcome := by
  unfold errorReply
  split <;> rfl

theorem Reports.isError {outcome : Outcome} {payload : Json}
    (h : d.Reports now request id outcome payload) : outcome.isError = true := by
  cases h <;> rfl

/-- **Every error** is reported in agreement, whether or not its payload can be encoded. -/
theorem agrees_errorReply {status : Nat} {payload : Json} {outcome : Outcome}
    (reports : d.Reports now request id outcome payload) (hstatus : status ∈ outcome.statuses) :
    d.Agrees now request id (errorReply (d.translator request) status payload outcome).value := by
  have hredirect : outcome ≠ .redirect := by
    rintro rfl
    cases reports.isError
  have hnotModified : outcome ≠ .notModified := by
    rintro rfl
    cases reports.isError
  have hvalue : ¬ (outcome = .ok ∨ outcome = .notFound) := by
    rintro (rfl | rfl) <;> cases reports.isError
  cases hrun : (d.translator request).run payload with
  | ok bytes =>
      rw [errorReply, hrun]
      exact agrees_of_bytes rfl hstatus hredirect hnotModified (fun h => absurd h hvalue)
        fun _ => ⟨payload, reports, .inl ⟨bytes, hrun, rfl, rfl⟩⟩
  | error failure =>
      rw [errorReply, hrun]
      exact agrees_of_bytes rfl hstatus hredirect hnotModified (fun h => absurd h hvalue)
        fun _ => ⟨payload, reports, .inr ⟨failure, hrun, rfl, rfl⟩⟩

/-- **The value of a handler** is sent in agreement, or else the failure to encode it. -/
theorem agrees_encode {result : Json} (produces : d.Produces request id result) :
    d.Agrees now request id
      (encode (d.translator request) (d.selection request) result).value := by
  cases hrun : (d.translator request).run result with
  | error failure =>
      rw [encode, hrun]
      exact agrees_errorReply (.notEncoded produces hrun) (List.mem_singleton_self 500)
  | ok bytes =>
      simp only [encode, hrun]
      by_cases hmissing : (d.selection request).isNotFound = true
      · rw [if_pos hmissing]
        exact agrees_of_bytes rfl (List.mem_singleton_self 404) nofun nofun
          (fun _ => ⟨iff_of_true rfl hmissing, result, produces, bytes, hrun, rfl, rfl⟩) nofun
      · rw [if_neg hmissing]
        exact agrees_of_bytes rfl (List.mem_singleton_self 200) nofun nofun
          (fun _ => ⟨iff_of_false nofun hmissing, result, produces, bytes, hrun, rfl, rfl⟩) nofun

/-- **Whatever course a request has taken**, the reply agrees with it. -/
theorem agrees_reply {conclusion : Conclusion} {events : List LogEvent} {calls : List Call}
    {r : Reply}
    (course : d.Concludes request (d.selection request) (d.hookedContext request id)
      conclusion events calls)
    (h : (d.reply (d.translator request) (d.selection request) conclusion).value
      = .returned r) :
    d.Agrees now request id r := by
  have hcourse := course
  cases course with
  | moved target =>
      cases h
      exact agrees_redirect (.forGood target)
  | unchanged notMoved static copy =>
      cases h
      exact agrees_notModified static copy
  | refused refuses =>
      cases h
      exact agrees_errorReply (.refused refuses) (List.mem_singleton_self 400)
  | validatorPanicked | handlerMissing | handlerFailed | handlerPanicked =>
      cases h
      exact agrees_errorReply (.failed hcourse) (List.mem_singleton_self 500)
  | detour returns target =>
      cases h
      exact agrees_redirect (.forNow returns target)
  | @value value after returns target =>
      obtain ⟨count, hprocessed, -, -⟩ := exists_processed after 0 d.postProcessors value
      rw [reply, Journal.value_bind] at h
      cases hcompletion : (postProcess after 0 d.postProcessors value).value with
      | panicked payload =>
          rw [hcompletion] at h
          cases h
      | returned result =>
          rw [hcompletion] at h hprocessed
          cases h
          exact agrees_encode ⟨value, after, count, returns, target, hprocessed⟩

/-! ### The whole dispatch -/

/-- If the post-processors return, every conclusion is turned into a reply. -/
theorem exists_reply_of_returns (t : Translator) (s : Selection)
    (hreturn : ∀ p ∈ d.postProcessors, ∀ value context,
      ∃ next, p.process value context = .returned next) (conclusion : Conclusion) :
    ∃ r, (d.reply t s conclusion).value = .returned r := by
  cases conclusion with
  | moved location => exact ⟨_, rfl⟩
  | unchanged => exact ⟨_, rfl⟩
  | refused messages => exact ⟨_, rfl⟩
  | failed => exact ⟨_, rfl⟩
  | detour location => exact ⟨_, rfl⟩
  | value value after =>
      obtain ⟨count, hprocessed, -, -⟩ := exists_processed after 0 d.postProcessors value
      obtain ⟨result, hresult⟩ := hprocessed.exists_returned hreturn
      refine ⟨(encode t s result).value, ?_⟩
      rw [reply, Journal.value_bind, hresult]
      rfl

/-- If the post-processors return, the dispatcher replies, in agreement with the request. -/
theorem exists_agrees_ownReply (now : Rat) (request : Request) (id : RequestId)
    (hreturn : ∀ p ∈ d.postProcessors, ∀ value context,
      ∃ next, p.process value context = .returned next) :
    ∃ r, (d.ownReply request id).value = .returned r ∧ d.Agrees now request id r := by
  have course := concludes d request (d.selection request) (d.hookedContext request id)
  obtain ⟨r, hr⟩ := exists_reply_of_returns (d.translator request) (d.selection request) hreturn
    (d.conclude request (d.selection request) (d.hookedContext request id)).value
  refine ⟨r, ?_, agrees_reply course hr⟩
  rw [ownReply_eq, Journal.value_bind, hr]

/-- Only a request that is turned away is answered as throttled. -/
theorem Agrees.turnsAway {r : Reply} (h : d.Agrees now request id r)
    (hthrottled : r.outcome = .throttled) : d.TurnsAway now := by
  obtain ⟨payload, hreports, -⟩ := h.error (by rw [hthrottled]; rfl)
  rw [hthrottled] at hreports
  cases hreports with
  | throttled limit => exact limit

/-- **Outcome, status, media type and content agree** after every dispatch, unless a hook
has answered or has changed the response.

All that may go wrong on the way, with the limiter, the arguments, the validator, the
handler or the translator, is accounted for; only post-processors have to return.  Of a
request that is turned away the hooks learn nothing, so nothing is asked of them. -/
theorem agrees_of_dispatch {d : Dispatcher} {now : Rat} {request : Request}
    {fresh : RequestId}
    (hreturn : ∀ p ∈ d.postProcessors, ∀ value context,
      ∃ next, p.process value context = .returned next)
    (hunanswered : ¬ d.TurnsAway now →
      ∀ answer ∈ d.hookAnswers request (requestId request fresh), answer = none)
    (hafter : ¬ d.TurnsAway now →
      ∀ r, (d.ownReply request (requestId request fresh)).value = .returned r →
        d.afterHooks request (r.toResponse (requestId request fresh))
          = r.toResponse (requestId request fresh)) :
    ∃ r, (d.dispatch now fresh request).completion
        = .returned (r.toResponse (requestId request fresh)) ∧
      d.Agrees now request (requestId request fresh) r ∧
      (r.outcome = .throttled ↔ d.TurnsAway now) := by
  rw [completion_dispatch]
  by_cases hlimit : d.TurnsAway now
  · rw [answer_of_turnsAway request _ hlimit]
    have hagrees : d.Agrees now request (requestId request fresh)
        (throttledReply (d.translator request)).value :=
      agrees_errorReply (.throttled hlimit) (List.mem_singleton_self 429)
    exact ⟨_, rfl, hagrees, fun _ => hlimit, fun _ => outcome_errorReply ..⟩
  · obtain ⟨r, hr, hagrees⟩ :=
      exists_agrees_ownReply now request (requestId request fresh) hreturn
    rw [answer_of_not_turnsAway request _ hlimit, serve_of_returned (hunanswered hlimit) hr,
      hafter hlimit r hr]
    exact ⟨r, rfl, hagrees, hagrees.turnsAway, fun h => absurd h hlimit⟩

/-- A translator that always panics: the wrapped report cannot be encoded, nor can the
payload that should say so, and the reply is the fixed text. -/
theorem agrees_of_dispatch_exploding :
    let exploding : Translator := ⟨"application/x-report", "report",
      fun _ => .panicked (.text "translator exploded")⟩
    let wrap : PostProcessor := ⟨0, fun value _ => .returned (.ofMembers [("report", value)])⟩
    let route (name text : String) (segments : List Segment) : Route :=
      ⟨.get, ⟨text, segments⟩, name, [],
        some (.handler fun _ context => (.returned (.ok (.string name)), context)), false⟩
    let d : Dispatcher :=
      { ofRoutes
          (.ofRoutes
            [route "weekly" "/reports/\x7bid\x7d" [.literal "reports", .capture "id"]]
            (route "not_found" "/404" [.literal "404"]))
          { Registry.builtIn with
            byExtension := Registry.builtIn.byExtension.insert "report" exploding } with
        middlewares := [.idle]
        postProcessors := [wrap] }
    let request : Request := .ofPath .get "/reports/7.report"
    let id : RequestId := ⟨0, by decide⟩
    let r : Reply := ⟨500, "text/plain",
      .bytes (Utf8.encode "Internal Server Error".toList), .serializationFailed⟩
    (∀ p ∈ d.postProcessors, ∀ value context,
      ∃ next, p.process value context = .returned next) ∧
    (¬ d.TurnsAway 0 →
      ∀ answer ∈ d.hookAnswers request (requestId request id), answer = none) ∧
    (¬ d.TurnsAway 0 →
      ∀ r, (d.ownReply request (requestId request id)).value = .returned r →
        d.afterHooks request (r.toResponse (requestId request id))
          = r.toResponse (requestId request id)) ∧
    (d.dispatch 0 id request).completion = .returned (r.toResponse id) ∧
    d.Agrees 0 request id r ∧ (r.outcome = .throttled ↔ d.TurnsAway 0) := by
  intro exploding wrap route d request id r
  have hreturn : ∀ p ∈ d.postProcessors, ∀ value context,
      ∃ next, p.process value context = .returned next := by
    intro p hp value context
    rw [List.mem_singleton.1 hp]
    exact ⟨_, rfl⟩
  have hunanswered : ¬ d.TurnsAway 0 →
      ∀ answer ∈ d.hookAnswers request (requestId request id), answer = none := by
    intro _ answer hanswer
    exact List.mem_singleton.1 hanswer
  have hafter : ¬ d.TurnsAway 0 →
      ∀ r, (d.ownReply request (requestId request id)).value = .returned r →
        d.afterHooks request (r.toResponse (requestId request id))
          = r.toResponse (requestId request id) := fun _ _ _ => rfl
  have hcompletion : (d.dispatch 0 id request).completion = .returned (r.toResponse id) := by
    decide +kernel
  have hid : requestId request id = id := by decide +kernel
  obtain ⟨r', hr', hagrees, hthrottled⟩ := agrees_of_dispatch hreturn hunanswered hafter
  rw [hid] at hr' hagrees
  have hreply : r' = r :=
    congrArg Response.toReply (Completion.returned.inj (hr'.symm.trans hcompletion))
  rw [hreply] at hagrees hthrottled
  exact ⟨hreturn, hunanswered, hafter, hcompletion, hagrees, hthrottled⟩

end Dispatcher

end HttpDispatch
