import HttpDispatch.Proofs.Dispatch.Hooks
import HttpDispatch.Proofs.Dispatch.Selection
import HttpDispatch.Proofs.Entries

/-!
# A dispatcher without the details of its failures

Handlers, validators and translators may fail, and each failure has details: the text of an
error, the payload of a panic, what a handler has done to the context before it failed.
Striking out these details gives a dispatcher whose parts fail on the same occasions and
tell nothing of why (`Dispatcher.redacted`).  It completes every dispatch as the original
does (`Dispatcher.completion_redacted`, `Dispatcher.completions_redacted`), so nothing that
a client sees comes from them.

The redaction is defined part by part, and each stage of a dispatch commutes with it.  That
two parts have the same redaction means that they differ in nothing but the details of
their failures (`Handler.redacted_eq_iff`, `Validator.redacted_eq_iff`,
`Translator.redacted_eq_iff`).
-/

namespace HttpDispatch

/-! ### Foreign code -/

section Masked

variable {β : Type} {fails : β → Bool} {blank x y : β}

/-- What a call gives, with a blank in place of a failure. -/
def masked (fails : β → Bool) (blank x : β) : β := if fails x then blank else x

theorem masked_of_fails (h : fails x = true) : masked fails blank x = blank := if_pos h

theorem masked_of_not_fails (h : fails x = false) : masked fails blank x = x :=
  if_neg (by rw [h]; exact Bool.false_ne_true)

/-- If a blank is itself a failure, then under masks nothing differs but failures. -/
theorem masked_eq_iff (hblank : fails blank = true) :
    masked fails blank x = masked fails blank y ↔
      x = y ∨ fails x = true ∧ fails y = true := by
  constructor
  · intro h
    cases hx : fails x <;> cases hy : fails y
    · rw [masked_of_not_fails hx, masked_of_not_fails hy] at h
      exact .inl h
    · -- a success that equals the blank would be a failure
      rw [masked_of_not_fails hx, masked_of_fails hy] at h
      rw [h, hblank] at hx
      cases hx
    · rw [masked_of_fails hx, masked_of_not_fails hy] at h
      rw [← h, hblank] at hy
      cases hy
    · exact .inr ⟨rfl, rfl⟩
  · rintro (rfl | ⟨hx, hy⟩)
    · rfl
    · rw [masked_of_fails hx, masked_of_fails hy]

end Masked

/-- Whether a call that is to give a value has ended without one. -/
def Completion.fails {ε α : Type} : Completion (Except ε α) → Bool
  | .returned (.ok _) => false
  | _ => true

/-- Whether a call has panicked. -/
def Completion.isPanicked {α : Type} : Completion α → Bool
  | .returned _ => false
  | .panicked _ => true

/-- **A handler without the details of its failures**: each is a panic without a payload
that leaves the context as it was. -/
def Handler.redacted (run : Handler) : Handler := fun arguments context =>
  masked (fun result => result.1.fails) (.panicked .other, context) (run arguments context)

/-- **A validator without the payloads of its panics.** -/
def Validator.redacted (validator : Validator) : Validator := fun name arguments =>
  masked Completion.isPanicked (.panicked .other) (validator name arguments)

/-- **A translator without the details of its failures.** -/
def Translator.redacted (t : Translator) : Translator :=
  { t with encode := fun value => masked Completion.fails (.panicked .other) (t.encode value) }

/-- **Handlers have the same redaction** if each time they do the same or both fail. -/
theorem Handler.redacted_eq_iff {run run' : Handler} :
    run.redacted = run'.redacted ↔ ∀ arguments context,
      run arguments context = run' arguments context ∨
        (run arguments context).1.fails = true ∧ (run' arguments context).1.fails = true := by
  simp only [funext_iff, redacted]
  exact forall₂_congr fun _ _ => masked_eq_iff rfl

/-- **Validators have the same redaction** if each time they do the same or both panic. -/
theorem Validator.redacted_eq_iff {validator validator' : Validator} :
    validator.redacted = validator'.redacted ↔ ∀ name arguments,
      validator name arguments = validator' name arguments ∨
        (validator name arguments).isPanicked = true ∧
          (validator' name arguments).isPanicked = true := by
  simp only [funext_iff, redacted]
  exact forall₂_congr fun _ _ => masked_eq_iff rfl

/-- **Translators have the same redaction** if they have the same media type and extension,
and each time do the same or both fail. -/
theorem Translator.redacted_eq_iff {t t' : Translator} :
    t.redacted = t'.redacted ↔ t.mediaType = t'.mediaType ∧ t.extension = t'.extension ∧
      ∀ value, t.encode value = t'.encode value ∨
        (t.encode value).fails = true ∧ (t'.encode value).fails = true := by
  simp only [redacted, Translator.mk.injEq, funext_iff]
  exact and_congr_right' (and_congr_right' (forall_congr' fun _ => masked_eq_iff rfl))

/-- A redacted translator writes what the original writes, and fails when it does. -/
theorem Translator.run_redacted (t : Translator) (value : Json) :
    t.redacted.run value = (t.run value).mapError fun _ => .panicked .other := by
  rcases hencode : t.encode value with (error | bytes) | payload <;>
    simp [redacted, run, masked, Completion.fails, hencode, Except.mapError]

/-! ### Routes -/

/-- A target without the details of failures. -/
def Target.redacted : Target → Target
  | .handler run => .handler run.redacted
  | .permanentRedirect location => .permanentRedirect location

/-- A route without the details of failures. -/
def Route.redacted (r : Route) : Route := { r with target := r.target.map Target.redacted }

/-- A table without the details of failures. -/
def RouteTable.redacted (t : RouteTable) : RouteTable :=
  .ofRoutes (t.routes.map Route.redacted) t.notFound.redacted

@[simp] theorem Route.permanentRedirect?_redacted (r : Route) :
    r.redacted.permanentRedirect? = r.permanentRedirect? := by
  rcases r with ⟨_, _, _, _, _ | (run | location), _⟩ <;> rfl

@[simp] theorem Route.handler?_redacted (r : Route) :
    r.redacted.handler? = r.handler?.map Handler.redacted := by
  rcases r with ⟨_, _, _, _, _ | (run | location), _⟩ <;> rfl

/-- A match with the redacted route. -/
def RouteMatch.redacted (m : RouteMatch) : RouteMatch := ⟨m.route.redacted, m.bindings⟩

theorem RouteTable.route?_redacted (t : RouteTable) (method : Method) (path : String) :
    t.redacted.route? method path = (t.route? method path).map RouteMatch.redacted :=
  t.route?_map method path Route.redacted (fun _ => rfl) (fun _ => rfl) t.notFound.redacted

/-! ### Negotiation -/

/-- A registry without the details of failures. -/
def Registry.redacted (r : Registry) : Registry where
  byExtension := r.byExtension.map Translator.redacted
  byMediaType := r.byMediaType.map Translator.redacted
  default := r.default.map Translator.redacted
  json := r.json.redacted

namespace Registry

@[simp] theorem knownExtension?_redacted (r : Registry) (path : String) :
    r.redacted.knownExtension? path = r.knownExtension? path := by
  simp [knownExtension?, redacted]

@[simp] theorem stripKnownExtension_redacted (r : Registry) (path : String) :
    r.redacted.stripKnownExtension path = r.stripKnownExtension path := by
  simp [stripKnownExtension]

theorem forPath?_redacted (r : Registry) (path : String) :
    r.redacted.forPath? path = (r.forPath? path).map Translator.redacted := by
  rw [forPath?, forPath?, Option.map_bind]
  congr 1
  funext extension
  exact SortedMap.get?_map ..

theorem forAccept?_redacted (r : Registry) (header : String) :
    r.redacted.forAccept? header = (r.forAccept? header).map Translator.redacted := by
  unfold forAccept?
  split
  · rfl
  · simp [redacted, List.map_findSome?, Function.comp_def]

/-- **The choice of the translator commutes with redaction.** -/
theorem choose_redacted (r : Registry) (path : String) (accept : Option String) :
    r.redacted.choose path accept = (r.choose path accept).redacted := by
  have hfallback : r.redacted.fallback = r.fallback.redacted := Option.getD_map ..
  have haccept : accept.bind r.redacted.forAccept?
      = (accept.bind r.forAccept?).map Translator.redacted := by
    cases accept with
    | none => rfl
    | some header => exact forAccept?_redacted r header
  rw [choose, choose, forPath?_redacted]
  cases r.forPath? path with
  | some t => rfl
  | none =>
      rw [Option.map_none]
      dsimp only
      rw [haccept, hfallback, Option.getD_map]

end Registry

/-- **Matching commutes with redaction.** -/
theorem RouteTable.negotiatedRoute?_redacted (t : RouteTable) (translators : Registry)
    (method : Method) (path : String) :
    t.redacted.negotiatedRoute? translators.redacted method path =
      (t.negotiatedRoute? translators method path).map RouteMatch.redacted := by
  have hany (o : Option RouteMatch) (extension : String) :
      (o.map RouteMatch.redacted).any (fun m => !m.bindsExtension extension)
        = o.any fun m => !m.bindsExtension extension := by
    cases o <;> rfl
  -- both tables know the same extensions, so they look the same paths up
  cases hext : translators.knownExtension? (Path.normalize path) with
  | none =>
      have hext' : translators.redacted.knownExtension? (Path.normalize path) = none := by
        rw [Registry.knownExtension?_redacted, hext]
      rw [negotiatedRoute?_of_knownExtension?_eq_none hext,
        negotiatedRoute?_of_knownExtension?_eq_none hext', route?_redacted]
  | some extension =>
      have hext' : translators.redacted.knownExtension? (Path.normalize path)
          = some extension := by
        rw [Registry.knownExtension?_redacted, hext]
      rw [negotiatedRoute?_of_knownExtension? hext, negotiatedRoute?_of_knownExtension? hext',
        route?_redacted, route?_redacted, hany, Registry.stripKnownExtension_redacted,
        ← Option.map_or, ← apply_ite]

/-- A selection of the redacted route. -/
def Selection.redacted (s : Selection) : Selection := { s with route := s.route.redacted }

/-- **The selection of a route commutes with redaction.** -/
theorem RouteTable.select_redacted (t : RouteTable) (translators : Registry) (method : Method)
    (path : String) :
    t.redacted.select translators.redacted method path
      = (t.select translators method path).redacted := by
  unfold select
  rw [negotiatedRoute?_redacted]
  cases t.negotiatedRoute? translators method path <;> rfl

/-! ### Dispatchers -/

namespace Dispatcher

/-- **A dispatcher without the details of its failures.**  Limiter, hooks and
post-processors stay as they are. -/
def redacted (d : Dispatcher) : Dispatcher :=
  { d with
    routes := d.routes.redacted
    translators := d.translators.redacted
    validator := d.validator.map Validator.redacted }

theorem translator_redacted (d : Dispatcher) (request : Request) :
    d.redacted.translator request = (d.translator request).redacted :=
  d.translators.choose_redacted ..

/-! ### One stage after the other -/

/-- An error is reported in the same way. -/
theorem errorReply_redacted (t : Translator) (status : Nat) (payload : Json)
    (outcome : Outcome) :
    (errorReply t.redacted status payload outcome).value
      = (errorReply t status payload outcome).value := by
  rw [errorReply, errorReply, Translator.run_redacted]
  cases t.run payload <;> rfl

/-- A value is encoded in the same way, or not at all. -/
theorem encode_redacted (t : Translator) (s : Selection) (value : Json) :
    (encode t.redacted s.redacted value).value = (encode t s value).value := by
  rw [encode, encode, Translator.run_redacted]
  cases t.run value with
  | error failure => exact errorReply_redacted ..
  | ok bytes => rfl

/-- **A conclusion is turned into the same reply.** -/
theorem reply_redacted (d : Dispatcher) (t : Translator) (s : Selection)
    (conclusion : Conclusion) :
    (d.redacted.reply t.redacted s.redacted conclusion).value
      = (d.reply t s conclusion).value := by
  cases conclusion with
  | moved | unchanged | detour => rfl
  | refused | failed => exact congrArg Completion.returned (errorReply_redacted ..)
  | value value context =>
      have hprocessors : d.redacted.postProcessors = d.postProcessors := rfl
      rw [reply, reply, Journal.value_bind, Journal.value_bind, hprocessors]
      cases (postProcess context 0 d.postProcessors value).value with
      | panicked payload => rfl
      | returned result => exact congrArg Completion.returned (encode_redacted t s result)

/-- **The handler leads to the same conclusion.**  What a failed handler has done to the
context is of no consequence, a redirect that it has asked for included. -/
theorem invoke_redacted (route : Route) (arguments : Arguments) (context : Context) :
    (invoke route.redacted arguments context).value = (invoke route arguments context).value := by
  rw [invoke, invoke, Route.handler?_redacted]
  cases route.handler? with
  | none => rfl
  | some run =>
      have hredacted : run.redacted arguments context
          = masked (fun result => result.1.fails) (.panicked .other, context)
              (run arguments context) := rfl
      simp only [Option.map_some, Journal.value_bind, hredacted]
      -- both failures lead to the conclusion that says nothing of a cause or a context
      rcases run arguments context with ⟨(error | value) | payload, after⟩ <;> rfl

/-- **The validator leads to the same conclusion.** -/
theorem validate_redacted (d : Dispatcher) (route : Route) (arguments : Arguments)
    (context : Context) :
    (d.redacted.validate route.redacted arguments context).value
      = (d.validate route arguments context).value := by
  have hvalidator : d.redacted.validator = d.validator.map Validator.redacted := rfl
  rw [validate, validate, hvalidator]
  cases d.validator with
  | none => exact invoke_redacted route arguments context
  | some validator =>
      have hredacted : validator.redacted route.redacted.name arguments
          = masked Completion.isPanicked (.panicked .other)
              (validator route.name arguments) := rfl
      simp only [Option.map_some, hredacted]
      rcases validator route.name arguments with (_ | ⟨message, messages⟩) | payload
      · exact invoke_redacted route arguments context
      · rfl
      · rfl

/-- **The work on a request leads to the same conclusion.** -/
theorem conclude_redacted (d : Dispatcher) (request : Request) (s : Selection)
    (context : Context) :
    (d.redacted.conclude request s.redacted context).value
      = (d.conclude request s context).value := by
  have hroute : s.redacted.route = s.route.redacted := rfl
  have hstatic : s.route.redacted.isStatic = s.route.isStatic := rfl
  have harguments : arguments request s.redacted = arguments request s := rfl
  rw [conclude, conclude, hroute, Route.permanentRedirect?_redacted, hstatic, harguments]
  cases s.route.permanentRedirect? with
  | some location => rfl
  | none =>
      dsimp only
      split
      · rfl
      · rw [Journal.value_bind, Journal.value_bind]
        cases (arguments request s).outcome with
        | error violations => rfl
        | ok arguments => exact validate_redacted d s.route arguments context

/-! ### The whole dispatch -/

/-- **The dispatcher's own reply** is the same. -/
theorem respond_redacted (d : Dispatcher) (request : Request) (context : Context)
    (t : Translator) :
    (d.redacted.respond request context t.redacted).value
      = (d.respond request context t).value := by
  have hselect : d.redacted.routes.select d.redacted.translators request.method request.path
      = (d.routes.select d.translators request.method request.path).redacted :=
    d.routes.select_redacted ..
  rw [respond, respond, hselect, Journal.value_bind, Journal.value_bind, conclude_redacted,
    reply_redacted]

/-- **A request is served in the same way.** -/
theorem serve_redacted (d : Dispatcher) (request : Request) (id : RequestId) :
    (d.redacted.serve request id).value = (d.serve request id).value := by
  have hmiddlewares : d.redacted.middlewares = d.middlewares := rfl
  rw [serve, serve, hmiddlewares, translator_redacted, Journal.value_bind, Journal.value_bind]
  rcases (runBefore request 0 d.middlewares none (startContext request id)).value
    with ⟨_ | reply, context⟩
  · dsimp only
    rw [Journal.value_bind, Journal.value_bind, respond_redacted]
  · rfl

/-- **Every dispatch is completed in the same way** without the details of failures. -/
theorem completion_redacted (d : Dispatcher) (now : Rat) (fresh : RequestId)
    (request : Request) :
    (d.redacted.dispatch now fresh request).completion
      = (d.dispatch now fresh request).completion := by
  have hpermit : d.redacted.permit now = d.permit now := rfl
  rw [completion_dispatch, completion_dispatch, hpermit]
  cases (d.permit now).map Prod.fst with
  | none => exact serve_redacted ..
  | some permit =>
      cases permit with
      | granted wait => exact serve_redacted ..
      | refused =>
          have hreply : (throttledReply (d.redacted.translator request)).value
              = (throttledReply (d.translator request)).value := by
            rw [translator_redacted]
            exact errorReply_redacted ..
          rw [answer, answer, Journal.value_bind, Journal.value_bind, Journal.value_bind,
            Journal.value_bind, hreply]

/-- A dispatch leaves a redacted dispatcher redacted. -/
theorem next_redacted (d : Dispatcher) (now : Rat) (fresh : RequestId) (request : Request) :
    (d.redacted.dispatch now fresh request).next
      = (d.dispatch now fresh request).next.redacted := rfl

/-- How the dispatches of some requests are completed, one after the other, each at its time
and with its identifier at hand. -/
def completions : Dispatcher → List (Rat × RequestId × Request) → List (Completion Response)
  | _, [] => []
  | d, (now, fresh, request) :: rest =>
    (d.dispatch now fresh request).completion ::
      completions (d.dispatch now fresh request).next rest

/-- **However many requests there are**, their dispatches are completed in the same way
without the details of failures: no failure of an earlier one shows in a later one. -/
theorem completions_redacted (d : Dispatcher) (requests : List (Rat × RequestId × Request)) :
    d.redacted.completions requests = d.completions requests := by
  induction requests generalizing d with
  | nil => rfl
  | cons entry rest ih =>
      obtain ⟨now, fresh, request⟩ := entry
      rw [completions, completions, completion_redacted, next_redacted, ih]

end Dispatcher

end HttpDispatch
