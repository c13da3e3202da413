import HttpDispatch.Proofs.Dispatch.Hooks

/-!
# Whose encoding a response has

A dispatch picks one translator and hands it to every stage that writes bytes.  This
module follows it to the response: unless a hook has answered, the reply is written by
that translator (`Reply.WrittenBy`), and hooks only see the finished reply.

The statements go along the stages, with one lemma for each stage that makes a reply:
`errorReply_writtenBy`, `encode_writtenBy`, `reply_writtenBy`, `respond_writtenBy`.
`Dispatcher.writtenBy_of_completion` puts them together.
-/

namespace HttpDispatch

/-- **A reply is written by a translator** if its bytes, in case it has any, are an
encoding of the translator at its media type, or the fixed plain text that stands in
for a payload the translator could not encode. -/
inductive Reply.WrittenBy (t : Translator) (r : Reply) : Prop
  | encoded {value : Json} {bytes : List UInt8} (run : t.run value = .ok bytes)
      (mediaType : r.mediaType = t.mediaType) (content : r.content = .bytes bytes) :
      WrittenBy t r
  | fallback {payload : Json} {failure : Translator.Failure}
      (run : t.run payload = .error failure)
      (mediaType : r.mediaType = Translator.text.mediaType)
      (content : r.content = .bytes Dispatcher.fallbackBody) : WrittenBy t r
  | withoutBytes (content : ∀ bytes, r.content ≠ .bytes bytes) : WrittenBy t r

theorem Reply.writtenBy_redirect (t : Translator) (location : String) (permanent : Bool) :
    (Reply.redirect location permanent).WrittenBy t :=
  .withoutBytes fun _ h => by cases h

theorem Reply.writtenBy_notModified (t : Translator) : Reply.notModified.WrittenBy t :=
  .withoutBytes fun _ h => by cases h

namespace Dispatcher

/-! ### One stage after the other -/

/-- Every error is reported by the translator. -/
theorem errorReply_writtenBy (t : Translator) (status : Nat) (payload : Json)
    (outcome : Outcome) : (errorReply t status payload outcome).value.WrittenBy t := by
  unfold errorReply
  split
  · rename_i bytes hrun
    exact .encoded hrun rfl rfl
  · rename_i failure hrun
    exact .fallback hrun rfl rfl

/-- The value of a handler is encoded by the translator, or an error is reported. -/
theorem encode_writtenBy (t : Translator) (s : Selection) (value : Json) :
    (encode t s value).value.WrittenBy t := by
  unfold encode
  split
  · rename_i bytes hrun
    split
    · exact .encoded hrun rfl rfl
    · exact .encoded hrun rfl rfl
  · exact errorReply_writtenBy t _ _ _

/-- **Whatever the work has led to**, the reply is written by the translator. -/
theorem reply_writtenBy {d : Dispatcher} {t : Translator} {s : Selection}
    {conclusion : Conclusion} {r : Reply}
    (h : (d.reply t s conclusion).value = .returned r) : r.WrittenBy t := by
  cases conclusion with
  | moved location =>
      cases h
      exact Reply.writtenBy_redirect t location true
  | unchanged =>
      cases h
      exact Reply.writtenBy_notModified t
  | refused messages =>
      cases h
      exact errorReply_writtenBy t _ _ _
  | failed =>
      cases h
      exact errorReply_writtenBy t _ _ _
  | detour location =>
      cases h
      exact Reply.writtenBy_redirect t location false
  | value value context =>
      rw [reply, Journal.value_bind] at h
      split at h
      · rename_i processed _
        cases h
        exact encode_writtenBy t s processed
      · cases h

theorem respond_writtenBy {d : Dispatcher} {request : Request} {context : Context}
    {t : Translator} {r : Reply}
    (h : (d.respond request context t).value = .returned r) : r.WrittenBy t := by
  rw [respond, Journal.value_bind] at h
  exact reply_writtenBy h

/-! ### The whole dispatch -/

/-- A request that no hook answers is answered by the dispatcher, with its own
translator, and the hooks see that reply. -/
theorem exists_reply_of_serve {d : Dispatcher} {request : Request} {id : RequestId}
    {response : Response} (hearly : d.earlyReply request id = none)
    (h : (d.serve request id).value = .returned response) :
    ∃ reply : Reply, reply.WrittenBy (d.translator request) ∧
      response = d.afterHooks request (reply.toResponse id) := by
  rw [earlyReply_eq, earliest_eq_none_iff] at hearly
  cases hown : (d.ownReply request id).value with
  | panicked payload =>
      rw [serve_of_panicked hearly hown] at h
      cases h
  | returned reply =>
      rw [serve_of_returned hearly hown] at h
      cases h
      exact ⟨reply, respond_writtenBy hown, rfl⟩

/-- **A response is written by the dispatcher's translator** if no hook has answered.
A request that is turned away does not reach the hooks. -/
theorem writtenBy_of_completion {d : Dispatcher} {now : Rat} {fresh : RequestId}
    {request : Request} {response : Response}
    (hearly : d.earlyReply request (requestId request fresh) = none)
    (h : (d.dispatch now fresh request).completion = .returned response) :
    ∃ reply : Reply, reply.WrittenBy (d.translator request) ∧
      (response = reply.toResponse (requestId request fresh) ∨
        response = d.afterHooks request (reply.toResponse (requestId request fresh))) := by
  rw [completion_dispatch] at h
  by_cases hlimit : d.TurnsAway now
  · rw [answer_of_turnsAway request _ hlimit] at h
    cases h
    exact ⟨_, errorReply_writtenBy (d.translator request) _ _ _, .inl rfl⟩
  · rw [answer_of_not_turnsAway request _ hlimit] at h
    obtain ⟨reply, hwritten, hresponse⟩ := exists_reply_of_serve hearly h
    exact ⟨reply, hwritten, .inr hresponse⟩

end Dispatcher

end HttpDispatch
