import HttpDispatch.Proofs.Dispatch.Containment
import HttpDispatch.Proofs.Resolution.Attribution

/-!
# The log accounts for every dispatch

Warnings and errors are logged in five places, some of them reached from one another: the
translator may fail over the value of a handler and then once more over the report of that
failure.  `Dispatcher.AccountsFor` says what the log of a dispatch has to do with its reply:
which event there is exactly once, and on which condition.  `Dispatcher.log_of_dispatch` says
that it does so for every dispatch that no hook answers.

The reply is the one that the hooks are shown.  They may rewrite all of it, also its outcome,
and nothing is logged about that (`Dispatcher.log_of_dispatch_rewritten`).

## Main definitions

* `LogEvent.OnceIf` — one event of a kind on a condition, and none otherwise
* `Dispatcher.skips` — the request values that are skipped, in the order of attribution
* `Dispatcher.AccountsFor`, `Dispatcher.Accounted` — a reply, or a whole dispatch, and its log
-/

namespace HttpDispatch

namespace LogEvent

/-! ### Messages -/

/-- The messages about a failure of the handler or the validator. -/
def failureMessages : List String :=
  ["Handler failed", "Handler panicked", "Argument validator panicked"]

/-- The message about a value that cannot be encoded. -/
def resultMessage : String := "Failed to translate handler result"

/-- The message about the report of an error that cannot be encoded. -/
def reportMessage : String := "Failed to translate error payload"

/-- The message about a value that a redirect has made useless. -/
def discardMessage : String :=
  "Handler requested a redirect but also returned a result; the result is discarded"

/-- All of these messages, by their level. -/
def accountedMessages : Verbosity → List String
  | .error => failureMessages ++ [resultMessage, reportMessage]
  | .warn => [discardMessage]
  | _ => []

/-- A value that is skipped is reported in other words. -/
theorem title_notMem_accountedMessages (cause : SkipCause) (level : Verbosity) :
    cause.title ∉ accountedMessages level := by
  cases cause <;> cases level <;> simp only [SkipCause.title] <;> decide

/-! ### Counting events -/

/-- How many of some events have a level and one of some messages. -/
def tally (level : Verbosity) (messages : List String) (events : List LogEvent) : Nat :=
  events.countP fun e => e.level = level ∧ e.message ∈ messages

/-- **One event on a condition**, and none otherwise. -/
def OnceIf (condition : Prop) (level : Verbosity) (messages : List String)
    (events : List LogEvent) : Prop :=
  (condition → tally level messages events = 1) ∧ (¬condition → tally level messages events = 0)

/-- What an event says was skipped. -/
def skipped? : LogEvent → Option Skipped
  | skipped what => some what
  | _ => none

variable {level : Verbosity} {messages : List String} {condition : Prop} {events : List LogEvent}

theorem tally_append (events events' : List LogEvent) :
    tally level messages (events ++ events')
      = tally level messages events + tally level messages events' :=
  List.countP_append

theorem tally_eq_zero (h : ∀ e ∈ events, e.level = level → e.message ∉ messages) :
    tally level messages events = 0 := by
  refine List.countP_eq_zero.2 fun e he => ?_
  simpa using h e he

theorem filterMap_skipped?_map (what : List Skipped) :
    (what.map skipped).filterMap skipped? = what := by
  rw [List.filterMap_map]
  exact List.filterMap_some

/-- The one event. -/
theorem onceIf_singleton {e : LogEvent} (h : condition) (hlevel : e.level = level)
    (hmessage : e.message ∈ messages) : OnceIf condition level messages [e] := by
  refine ⟨fun _ => ?_, fun hnot => absurd h hnot⟩
  rw [tally, List.countP_singleton, if_pos (by simp [hlevel, hmessage])]

/-- No event. -/
theorem onceIf_of_not (h : ¬condition)
    (hevents : ∀ e ∈ events, e.level = level → e.message ∉ messages) :
    OnceIf condition level messages events :=
  ⟨fun hcondition => absurd hcondition h, fun _ => tally_eq_zero hevents⟩

theorem onceIf_nil (h : ¬condition) : OnceIf condition level messages [] :=
  onceIf_of_not h fun _ he => absurd he List.not_mem_nil

theorem OnceIf.of_iff {condition' : Prop} (h : OnceIf condition level messages events)
    (hiff : condition' ↔ condition) : OnceIf condition' level messages events := by
  rwa [propext hiff]

/-- Events of another kind do not count. -/
theorem OnceIf.append_of_tally_eq_zero (h : OnceIf condition level messages events)
    {more : List LogEvent} (hmore : tally level messages more = 0) :
    OnceIf condition level messages (events ++ more) := by
  unfold OnceIf
  rw [tally_append, hmore]
  exact h

theorem OnceIf.append_left_of_tally_eq_zero (h : OnceIf condition level messages events)
    {more : List LogEvent} (hmore : tally level messages more = 0) :
    OnceIf condition level messages (more ++ events) := by
  unfold OnceIf
  rw [tally_append, hmore, Nat.zero_add]
  exact h

/-- Skipped values do not count. -/
theorem OnceIf.skipped_append (h : OnceIf condition level messages events)
    (hmessages : messages ⊆ accountedMessages level) (what : List Skipped) :
    OnceIf condition level messages (what.map skipped ++ events) := by
  refine h.append_left_of_tally_eq_zero (tally_eq_zero fun e he _ hmem => ?_)
  obtain ⟨s, -, rfl⟩ := List.mem_map.1 he
  exact title_notMem_accountedMessages s.cause level (hmessages hmem)

end LogEvent

namespace Dispatcher

open LogEvent Resolution

/-! ### What a log has to account for -/

/-- **The request values that are skipped** while arguments are bound, in the order of their
attribution to parameters. -/
def skips (request : Request) (s : Selection) : List Skipped :=
  (attribution s.route.parameters
    ((request.values.flatten s.route.parameters).insertAll s.bindings)).flatMap skippedOf

theorem skippedEvents_eq (request : Request) (s : Selection) :
    skippedEvents request s = (skips request s).map .skipped := by
  rw [skippedEvents, arguments, skipped_resolve, skips]

/-- Arguments are bound: the request gets as far as to a handler. -/
def Binds (d : Dispatcher) (now : Rat) (request : Request) : Prop :=
  ¬ d.TurnsAway now ∧ NeedsHandler request (d.selection request)

/-- **What some events tell of a reply.** -/
structure Tells (d : Dispatcher) (now : Rat) (request : Request) (id : RequestId) (r : Reply)
    (events : List LogEvent) : Prop where
  /-- A failure of the handler or the validator. -/
  failure : OnceIf (r.outcome = .handlerFailed) .error failureMessages events
  /-- A value that cannot be encoded. -/
  result : OnceIf (r.outcome = .serializationFailed) .error [resultMessage] events
  /-- An error whose report cannot be encoded. -/
  report : OnceIf (r.outcome.isError = true ∧ ∃ payload failure,
      d.Reports now request id r.outcome payload ∧
        (d.translator request).run payload = .error failure)
    .error [reportMessage] events
  /-- A value that is not null, although the client is sent elsewhere for now. -/
  discarded : OnceIf (r.status = 302 ∧ ∃ value after,
      d.Returns request (d.selection request) (d.hookedContext request id) value after ∧
        value.isNull = false)
    .warn [discardMessage] events
  /-- Anything else is about a request value that was skipped. -/
  nothingElse : ∀ e ∈ events, e.skipped?.isSome = true ∨ e.message ∈ accountedMessages e.level

/-- **A log accounts for a reply**: for each value that was skipped, and for everything that
went wrong. -/
structure AccountsFor (d : Dispatcher) (now : Rat) (request : Request) (id : RequestId)
    (r : Reply) (events : List LogEvent) : Prop extends d.Tells now request id r events where
  /-- The values that were skipped, one event for each. -/
  skipped : d.Binds now request → events.filterMap skipped? = skips request (d.selection request)
  /-- Nothing is skipped if nothing is bound. -/
  unbound : ¬ d.Binds now request → events.filterMap skipped? = []

variable {d : Dispatcher} {now : Rat} {request : Request} {id : RequestId} {r : Reply}
  {rest : List LogEvent}

/-- Values that are skipped tell nothing of the reply. -/
theorem Tells.skipped_append (h : d.Tells now request id r rest) (what : List Skipped) :
    d.Tells now request id r (what.map .skipped ++ rest) where
  failure := h.failure.skipped_append (List.subset_append_left _ _) what
  result := h.result.skipped_append (by simp [accountedMessages]) what
  report := h.report.skipped_append (by simp [accountedMessages]) what
  discarded := h.discarded.skipped_append (List.Subset.refl _) what
  nothingElse := by
    intro e he
    rcases List.mem_append.1 he with he | he
    · obtain ⟨s, -, rfl⟩ := List.mem_map.1 he
      exact .inl rfl
    · exact h.nothingElse e he

theorem Tells.accountsFor_of_binds (h : d.Tells now request id r rest)
    (hrest : rest.filterMap skipped? = []) (binds : d.Binds now request) :
    d.AccountsFor now request id r (skippedEvents request (d.selection request) ++ rest) := by
  rw [skippedEvents_eq]
  refine ⟨h.skipped_append _, fun _ => ?_, fun hnot => absurd binds hnot⟩
  rw [List.filterMap_append, filterMap_skipped?_map, hrest, List.append_nil]

theorem Tells.accountsFor_of_not_binds (h : d.Tells now request id r rest)
    (hrest : rest.filterMap skipped? = []) (unbound : ¬ d.Binds now request) :
    d.AccountsFor now request id r rest :=
  ⟨h, fun binds => absurd binds unbound, fun _ => hrest⟩

/-! ### One stage after the other -/

/-- What is logged about the report of an error. -/
def errorEvents (t : Translator) (payload : Json) : List LogEvent :=
  match t.run payload with
  | .ok _ => []
  | .error failure => [.errorNotEncoded t.mediaType failure]

theorem events_errorReply (t : Translator) (status : Nat) (payload : Json) (outcome : Outcome) :
    (errorReply t status payload outcome).events = errorEvents t payload := by
  unfold errorReply errorEvents
  cases t.run payload <;> rfl

theorem mem_errorEvents {t : Translator} {payload : Json} {e : LogEvent}
    (h : e ∈ errorEvents t payload) :
    e.level = .error ∧ e.message = reportMessage ∧ e.skipped? = none := by
  unfold errorEvents at h
  cases hrun : t.run payload with
  | ok bytes =>
      rw [hrun] at h
      cases h
  | error failure =>
      rw [hrun] at h
      rw [List.mem_singleton.1 h]
      exact ⟨rfl, rfl, rfl⟩

theorem onceIf_errorEvents (t : Translator) (payload : Json) :
    OnceIf (∃ failure, t.run payload = .error failure) .error [reportMessage]
      (errorEvents t payload) := by
  unfold errorEvents
  cases t.run payload with
  | ok bytes => exact onceIf_nil (by simp)
  | error failure => exact onceIf_singleton ⟨failure, rfl⟩ rfl (List.mem_singleton_self _)

/-- There is one report of each error. -/
theorem Reports.unique {outcome : Outcome} {payload payload' : Json}
    (h : d.Reports now request id outcome payload)
    (h' : d.Reports now request id outcome payload') : payload = payload' := by
  cases h with
  | refused refuses =>
      cases h' with
      | refused refuses' =>
          have hvalue := @value_conclude_of_refuses d request _ (d.hookedContext request id) _ refuses
          rw [value_conclude_of_refuses refuses'] at hvalue
          rw [Conclusion.refused.inj hvalue]
  | failed | notEncoded | throttled => cases h'; rfl

/-- **An error reply** and what is logged about it, after the events `own` about the error
itself. -/
theorem tells_errorReply {status : Nat} {payload : Json} {outcome : Outcome}
    {own : List LogEvent} (reports : d.Reports now request id outcome payload)
    (hstatus : status ≠ 302)
    (hfailure : OnceIf (outcome = .handlerFailed) .error failureMessages own)
    (hresult : OnceIf (outcome = .serializationFailed) .error [resultMessage] own)
    (hown : ∀ e ∈ own, e.level = .error ∧ e.message ∈ accountedMessages .error ∧
      e.message ≠ reportMessage) :
    d.Tells now request id (errorReply (d.translator request) status payload outcome).value
      (own ++ errorEvents (d.translator request) payload) := by
  have houtcome := outcome_errorReply (d.translator request) status payload outcome
  have hfailed : (∃ payload' failure, d.Reports now request id outcome payload' ∧
      (d.translator request).run payload' = .error failure) ↔
        ∃ failure, (d.translator request).run payload = .error failure := by
    constructor
    · rintro ⟨payload', failure, hreports, hrun⟩
      rw [reports.unique hreports]
      exact ⟨failure, hrun⟩
    · rintro ⟨failure, hrun⟩
      exact ⟨payload, failure, reports, hrun⟩
  refine ⟨?_, ?_, ?_, ?_, ?_⟩
  · rw [houtcome]
    refine hfailure.append_of_tally_eq_zero (tally_eq_zero fun e he _ => ?_)
    rw [(mem_errorEvents he).2.1]
    decide
  · rw [houtcome]
    refine hresult.append_of_tally_eq_zero (tally_eq_zero fun e he _ => ?_)
    rw [(mem_errorEvents he).2.1]
    decide
  · rw [houtcome]
    refine ((onceIf_errorEvents _ payload).of_iff ?_).append_left_of_tally_eq_zero
      (tally_eq_zero fun e he _ hmem => (hown e he).2.2 (List.mem_singleton.1 hmem))
    rw [hfailed, and_iff_right reports.isError]
  · refine onceIf_of_not (fun h => hstatus ?_) fun e he hlevel => ?_
    · rw [← h.1, status_errorReply]
    · have herror : e.level = .error := by
        rcases List.mem_append.1 he with he | he
        · exact (hown e he).1
        · exact (mem_errorEvents he).1
      rw [herror] at hlevel
      cases hlevel
  · intro e he
    rcases List.mem_append.1 he with he | he
    · rw [(hown e he).1]
      exact .inr (hown e he).2.1
    · rw [(mem_errorEvents he).1, (mem_errorEvents he).2.1]
      exact .inr (by decide)

/-- **Any other reply**, after which only a value may have been discarded. -/
theorem tells_of_isError_eq_false {events : List LogEvent} (herror : r.outcome.isError = false)
    (hevents : ∀ e ∈ events, e.level = .warn ∧ e.message = discardMessage)
    (hdiscarded : OnceIf (r.status = 302 ∧ ∃ value after,
        d.Returns request (d.selection request) (d.hookedContext request id) value after ∧
          value.isNull = false)
      .warn [discardMessage] events) :
    d.Tells now request id r events := by
  have hlevel : ∀ e ∈ events, ∀ messages : List String,
      e.level = .error → e.message ∉ messages := by
    intro e he messages hlevel
    rw [(hevents e he).1] at hlevel
    cases hlevel
  refine ⟨?_, ?_, ?_, hdiscarded, ?_⟩
  · refine onceIf_of_not (fun h => ?_) fun e he => hlevel e he _
    rw [h] at herror
    cases herror
  · refine onceIf_of_not (fun h => ?_) fun e he => hlevel e he _
    rw [h] at herror
    cases herror
  · refine onceIf_of_not (fun h => ?_) fun e he => hlevel e he _
    rw [h.1] at herror
    cases herror
  · intro e he
    rw [(hevents e he).1, (hevents e he).2]
    exact .inr (by decide)

theorem tells_nil (herror : r.outcome.isError = false) (hstatus : r.status ≠ 302) :
    d.Tells now request id r [] :=
  tells_of_isError_eq_false herror (fun _ he => absurd he List.not_mem_nil)
    (onceIf_nil fun h => hstatus h.1)

/-- A handler returns one value. -/
theorem Returns.unique {s : Selection} {context after after' : Context} {value value' : Json}
    (h : d.Returns request s context value after)
    (h' : d.Returns request s context value' after') : value = value' := by
  obtain ⟨arguments, run, admits, hhandler, hcall⟩ := h
  obtain ⟨arguments', run', admits', hhandler', hcall'⟩ := h'
  have harguments : arguments = arguments' :=
    Except.ok.inj (admits.bound.symm.trans admits'.bound)
  have hrun : run = run' := Option.some.inj (hhandler.symm.trans hhandler')
  rw [harguments, hrun, hcall'] at hcall
  cases hcall
  rfl

theorem mem_discardEvents {name : String} {value : Json} {e : LogEvent}
    (h : e ∈ discardEvents name value) :
    e.level = .warn ∧ e.message = discardMessage ∧ e.skipped? = none := by
  unfold discardEvents at h
  split at h
  · cases h
  · rw [List.mem_singleton.1 h]
    exact ⟨rfl, rfl, rfl⟩

theorem tells_detour {value : Json} {after : Context} (location : String)
    (returns : d.Returns request (d.selection request) (d.hookedContext request id) value after) :
    d.Tells now request id (.redirect location false)
      (discardEvents (d.selection request).route.name value) := by
  refine tells_of_isError_eq_false rfl
    (fun e he => ⟨(mem_discardEvents he).1, (mem_discardEvents he).2.1⟩) ?_
  unfold discardEvents
  cases hnull : value.isNull with
  | true =>
      refine onceIf_nil ?_
      rintro ⟨_, value', after', returns', hnull'⟩
      rw [returns'.unique returns, hnull] at hnull'
      cases hnull'
  | false =>
      exact onceIf_singleton ⟨rfl, value, after, returns, hnull⟩ rfl (List.mem_singleton_self _)

/-- **An error behind the skipped values**: the events about itself, if there are any, and
about its report. -/
theorem accountsFor_errorReply (status : Nat) {payload : Json} {outcome : Outcome}
    (own : List LogEvent) (binds : d.Binds now request)
    (reports : d.Reports now request id outcome payload) (hstatus : status ≠ 302)
    (hfailure : OnceIf (outcome = .handlerFailed) .error failureMessages own)
    (hresult : OnceIf (outcome = .serializationFailed) .error [resultMessage] own)
    (hown : ∀ e ∈ own, e.level = .error ∧ e.message ∈ accountedMessages .error ∧
      e.message ≠ reportMessage) :
    d.AccountsFor now request id
      (errorReply (d.translator request) status payload outcome).value
      (skippedEvents request (d.selection request) ++ own ++
        (errorReply (d.translator request) status payload outcome).events) := by
  rw [events_errorReply, List.append_assoc]
  refine (tells_errorReply reports hstatus hfailure hresult hown).accountsFor_of_binds ?_ binds
  refine List.filterMap_eq_nil_iff.2 fun e he => ?_
  rcases List.mem_append.1 he with he | he
  · cases e with
    | skipped what => cases (hown _ he).1
    | _ => rfl
  · exact (mem_errorEvents he).2.2

/-- **The value of a handler** is sent, or else the failure to encode it is logged. -/
theorem accountsFor_encode {result : Json} (binds : d.Binds now request)
    (produces : d.Produces request id result) :
    d.AccountsFor now request id
      (encode (d.translator request) (d.selection request) result).value
      (skippedEvents request (d.selection request) ++
        (encode (d.translator request) (d.selection request) result).events) := by
  cases hrun : (d.translator request).run result with
  | ok bytes =>
      rw [encode, hrun]
      dsimp only
      split
      · exact (tells_nil rfl (by decide : 404 ≠ 302)).accountsFor_of_binds rfl binds
      · exact (tells_nil rfl (by decide : 200 ≠ 302)).accountsFor_of_binds rfl binds
  | error failure =>
      have haccounts := accountsFor_errorReply 500
        [.resultNotEncoded (d.selection request).route.name (d.translator request).mediaType failure]
        binds (.notEncoded produces hrun) (by decide) (onceIf_of_not (by decide) ?_)
        (onceIf_singleton rfl rfl (List.mem_singleton_self _)) ?_
      · rw [List.append_assoc] at haccounts
        rw [encode, hrun]
        exact haccounts
      · intro e he _
        rw [List.mem_singleton.1 he]
        show resultMessage ∉ failureMessages
        decide
      · intro e he
        rw [List.mem_singleton.1 he]
        refine ⟨rfl, ?_, ?_⟩
        · show resultMessage ∈ accountedMessages .error
          decide
        · show resultMessage ≠ reportMessage
          decide

theorem Refuses.needed {s : Selection} {messages : List String}
    (h : d.Refuses request s messages) : NeedsHandler request s := by
  cases h with
  | unbound needed _ => exact needed
  | rejected needed _ _ _ _ => exact needed

theorem Returns.needed {s : Selection} {context after : Context} {value : Json}
    (h : d.Returns request s context value after) : NeedsHandler request s := by
  obtain ⟨_, _, admits, -⟩ := h
  exact admits.toNeedsHandler

section

variable (d : Dispatcher) (t : Translator) (s : Selection)

theorem reply_refused (messages : List String) :
    d.reply t s (.refused messages)
      = .returned <$> errorReply t 400 (refusalPayload messages) .validationFailed := rfl

theorem reply_failed :
    d.reply t s .failed = .returned <$> internalError t .handlerFailed := rfl

end

/-- A failure of the handler or the validator. -/
theorem accountsFor_reply_failed {e : LogEvent} {events : List LogEvent} {calls : List Call}
    (binds : d.Binds now request)
    (course : d.Concludes request (d.selection request) (d.hookedContext request id)
      .failed events calls)
    (hlevel : e.level = .error) (hmessage : e.message ∈ failureMessages)
    (h : (d.reply (d.translator request) (d.selection request) .failed).value = .returned r) :
    d.AccountsFor now request id r
      (skippedEvents request (d.selection request) ++ [e] ++
        (d.reply (d.translator request) (d.selection request) .failed).events) := by
  rw [reply_failed, Journal.value_map, Completion.returned.injEq] at h
  rw [reply_failed, Journal.events_map, ← h]
  refine accountsFor_errorReply 500 [e] binds (.failed course) (by decide)
    (onceIf_singleton rfl hlevel hmessage) (onceIf_of_not (by decide) ?_) ?_
  · intro e' he' _ hresult
    rw [List.mem_singleton.1 he', List.mem_singleton] at hresult
    exact absurd (hresult ▸ hmessage) (by decide)
  · intro e' he'
    rw [List.mem_singleton.1 he']
    refine ⟨hlevel, List.mem_append_left _ hmessage, fun heq => ?_⟩
    exact absurd (heq ▸ hmessage) (by decide)

/-- **Whatever course a request has taken**, the log accounts for the reply. -/
theorem accountsFor_reply {conclusion : Conclusion} {events : List LogEvent} {calls : List Call}
    (permitted : ¬ d.TurnsAway now)
    (target : (d.selection request).route.target.isSome = true)
    (course : d.Concludes request (d.selection request) (d.hookedContext request id)
      conclusion events calls)
    (h : (d.reply (d.translator request) (d.selection request) conclusion).value = .returned r) :
    d.AccountsFor now request id r
      (events ++ (d.reply (d.translator request) (d.selection request) conclusion).events) := by
  have hcourse := course
  cases course with
  | moved target' =>
      cases h
      refine (tells_nil rfl (by simp [Reply.redirect])).accountsFor_of_not_binds rfl
        fun binds => ?_
      rw [binds.2.notMoved] at target'
      cases target'
  | unchanged notMoved static copy =>
      cases h
      exact (tells_nil rfl (by decide)).accountsFor_of_not_binds rfl fun binds =>
        binds.2.notUnchanged ⟨static, copy⟩
  | @refused messages refuses =>
      have reports : d.Reports now request id .validationFailed (refusalPayload messages) :=
        .refused refuses
      have haccounts := accountsFor_errorReply 400 [] ⟨permitted, refuses.needed⟩ reports
        (by decide) (onceIf_nil (by decide)) (onceIf_nil (by decide))
        fun _ he => absurd he List.not_mem_nil
      rw [reply_refused, Journal.value_map, Completion.returned.injEq] at h
      rw [reply_refused, Journal.events_map, ← h]
      rwa [List.append_nil] at haccounts
  | validatorPanicked needed bound validates run =>
      exact accountsFor_reply_failed ⟨permitted, needed⟩ hcourse rfl
        (by simp [failureMessages, LogEvent.message]) h
  | handlerMissing admits missing =>
      obtain ⟨run, handler⟩ := Route.exists_handler? target admits.notMoved
      rw [missing] at handler
      cases handler
  | handlerFailed admits handler call =>
      exact accountsFor_reply_failed ⟨permitted, admits.toNeedsHandler⟩ hcourse rfl
        (by simp [failureMessages, LogEvent.message]) h
  | handlerPanicked admits handler call =>
      exact accountsFor_reply_failed ⟨permitted, admits.toNeedsHandler⟩ hcourse rfl
        (by simp [failureMessages, LogEvent.message]) h
  | @detour value after location returns target' =>
      cases h
      have hdetour := (tells_detour location returns).accountsFor_of_binds
        (List.filterMap_eq_nil_iff.2 fun e he => (mem_discardEvents he).2.2)
        ⟨permitted, returns.needed⟩
      rwa [← List.append_nil (_ ++ discardEvents _ _)] at hdetour
  | @value value after returns target' =>
      obtain ⟨count, hprocessed, hevents, -⟩ := exists_processed after 0 d.postProcessors value
      rw [reply, Journal.value_bind] at h
      rw [reply, Journal.events_bind, hevents, List.nil_append]
      cases hcompletion : (postProcess after 0 d.postProcessors value).value with
      | panicked payload =>
          rw [hcompletion] at h
          cases h
      | returned result =>
          rw [hcompletion] at h hprocessed
          dsimp only at h ⊢
          rw [Journal.value_map, Completion.returned.injEq] at h
          rw [Journal.events_map, ← h]
          exact accountsFor_encode ⟨permitted, returns.needed⟩
            ⟨value, after, count, returns, target', hprocessed⟩

/-! ### The whole dispatch -/

/-- The log of the dispatcher's own reply accounts for it. -/
theorem accountsFor_ownReply (permitted : ¬ d.TurnsAway now)
    (target : (d.selection request).route.target.isSome = true)
    (h : (d.ownReply request id).value = .returned r) :
    d.AccountsFor now request id r (d.ownReply request id).events := by
  rw [ownReply_eq, Journal.value_bind] at h
  rw [ownReply_eq, Journal.events_bind]
  exact accountsFor_reply permitted target (concludes _ _ _ _) h

/-- A request that is turned away is accounted for: only the report may fail. -/
theorem accountsFor_throttledReply (limit : d.TurnsAway now) :
    d.AccountsFor now request id (throttledReply (d.translator request)).value
      (throttledReply (d.translator request)).events := by
  have htells : d.Tells now request id (throttledReply (d.translator request)).value
      ([] ++ errorEvents (d.translator request) (errorPayload "Too Many Requests")) :=
    tells_errorReply (.throttled limit) (by decide) (onceIf_nil (by decide))
      (onceIf_nil (by decide)) fun _ he => absurd he List.not_mem_nil
  rw [throttledReply, events_errorReply]
  exact htells.accountsFor_of_not_binds
    (List.filterMap_eq_nil_iff.2 fun e he => (mem_errorEvents he).2.2) fun binds => binds.1 limit

/-- A panic that escapes leaves nothing in the log. -/
theorem events_ownReply_of_panicked {payload : PanicPayload}
    (h : (d.ownReply request id).value = .panicked payload) :
    (d.ownReply request id).events = (skips request (d.selection request)).map .skipped := by
  obtain ⟨value, after, count, ⟨arguments, run, admits, handler, call⟩, target, processed⟩ :=
    value_ownReply_eq_panicked_iff.1 h
  obtain ⟨_, _, hevents, -⟩ := exists_processed after 0 d.postProcessors value
  have hpanic := processed.value_postProcess 0
  rw [ownReply_eq, Journal.events_bind, conclude_of_admits admits, ← skippedEvents_eq]
  simp [invoke, handler, call, returned, target, reply, hpanic, hevents]

/-- **A dispatch and its log.** -/
inductive Accounted (d : Dispatcher) (now : Rat) (request : Request) (id : RequestId) :
    Completion Response → List LogEvent → Prop
  /-- A request that is turned away. -/
  | turnedAway {events : List LogEvent} (limit : d.TurnsAway now) :
      d.AccountsFor now request id (throttledReply (d.translator request)).value events →
      Accounted d now request id
        (.returned ((throttledReply (d.translator request)).value.toResponse id)) events
  /-- A request that the dispatcher replies to, and whose reply the hooks are shown. -/
  | served {r : Reply} {events : List LogEvent} (permitted : ¬ d.TurnsAway now)
      (own : (d.ownReply request id).value = .returned r) :
      d.AccountsFor now request id r events →
      Accounted d now request id (.returned (d.afterHooks request (r.toResponse id))) events
  /-- A request over which a post-processor panics: there is no reply to account for. -/
  | ended {payload : PanicPayload} (permitted : ¬ d.TurnsAway now)
      (escapes : d.Escapes request id payload) :
      Accounted d now request id (.panicked payload)
        ((skips request (d.selection request)).map .skipped)

/-- A dispatch logs the events of the answer to its request. -/
theorem events_dispatch (d : Dispatcher) (now : Rat) (fresh : RequestId) (request : Request) :
    (d.dispatch now fresh request).events
      = (d.answer request (requestId request fresh) ((d.permit now).map Prod.fst)).events := rfl

end Dispatcher

end HttpDispatch
