import HttpDispatch.Proofs.Dispatch.Log
import HttpDispatch.Proofs.RouteTable.Building

/-!
# No request is left without a handler

The dispatcher has an answer for a route that leads nowhere: it logs that there is no handler and
reports a failure.  It never comes to that.  A plan is not built with a definition that leads
nowhere, a route that leads elsewhere for good is done with before a handler is looked for, and
the not-found route has a handler in any case.

The main statement, `RoutePlan.built_iff_sound_and_handles`, puts this beside what
`RouteTable.Building` says of the building itself.
-/

namespace HttpDispatch

namespace Dispatcher

open LogEvent

variable {d : Dispatcher} {now : Rat} {fresh id : RequestId} {request : Request}
  {s : Selection} {context : Context}

/-! ### What is not logged -/

theorem handlerMissing_notMem_errorReply (t : Translator) (status : Nat) (payload : Json)
    (outcome : Outcome) (name : String) :
    .handlerMissing name ∉ (errorReply t status payload outcome).events := by
  intro h
  rw [events_errorReply] at h
  have hmessage : "Route has no handler" = reportMessage := (mem_errorEvents h).2.1
  exact absurd hmessage (by decide)

theorem handlerMissing_notMem_encode (t : Translator) (s : Selection) (value : Json)
    (name : String) : .handlerMissing name ∉ (encode t s value).events := by
  unfold encode
  split
  · split <;> exact List.not_mem_nil
  · have hreport : .handlerMissing name ∉ (internalError t .serializationFailed).events :=
      handlerMissing_notMem_errorReply t 500 _ _ name
    simpa using hreport

/-- Whatever becomes of a conclusion, nothing is logged about a handler. -/
theorem handlerMissing_notMem_reply (t : Translator) (s : Selection) (conclusion : Conclusion)
    (name : String) : .handlerMissing name ∉ (d.reply t s conclusion).events := by
  cases conclusion with
  | moved | unchanged | detour => exact List.not_mem_nil
  | refused messages =>
      rw [reply_refused, Journal.events_map]
      exact handlerMissing_notMem_errorReply t _ _ _ name
  | failed =>
      rw [reply_failed, Journal.events_map]
      exact handlerMissing_notMem_errorReply t _ _ _ name
  | value value after =>
      obtain ⟨count, -, hevents, -⟩ := exists_processed after 0 d.postProcessors value
      rw [reply, Journal.events_bind, hevents, List.nil_append]
      cases (postProcess after 0 d.postProcessors value).value with
      | panicked payload => exact List.not_mem_nil
      | returned result =>
          rw [Journal.events_map]
          exact handlerMissing_notMem_encode t s result name

/-- **A route that leads somewhere has a handler when one is looked for.** -/
theorem handlerMissing_notMem_conclude (target : s.route.target.isSome = true) (name : String) :
    .handlerMissing name ∉ (d.conclude request s context).events := by
  have hskipped : .handlerMissing name ∉ skippedEvents request s := by
    intro h
    obtain ⟨_, -, hevent⟩ := List.mem_map.1 h
    cases hevent
  have course := concludes d request s context
  generalize (d.conclude request s context).value = conclusion,
    (d.conclude request s context).events = events,
    (d.conclude request s context).calls = calls at course
  cases course with
  | moved | unchanged => exact List.not_mem_nil
  | refused | value => exact hskipped
  | handlerMissing admits missing =>
      obtain ⟨run, handler⟩ := Route.exists_handler? target admits.notMoved
      rw [missing] at handler
      cases handler
  | validatorPanicked | handlerFailed | handlerPanicked => simpa using hskipped
  | detour =>
      rw [List.mem_append, not_or]
      refine ⟨hskipped, fun h => ?_⟩
      have hlevel : Verbosity.error = .warn := (mem_discardEvents h).1
      cases hlevel

/-! ### The whole dispatch -/

/-- **All that a dispatch logs** is about a request that is turned away or about the dispatcher's
own reply. -/
theorem mem_events_dispatch {e : LogEvent} (h : e ∈ (d.dispatch now fresh request).events) :
    e ∈ (throttledReply (d.translator request)).events ∨
      e ∈ (d.ownReply request (requestId request fresh)).events := by
  rw [events_dispatch] at h
  by_cases hlimit : d.TurnsAway now
  · rw [answer_of_turnsAway request _ hlimit] at h
    exact .inl h
  · rw [answer_of_not_turnsAway request _ hlimit] at h
    cases hearly : earliest (d.hookAnswers request (requestId request fresh)) with
    | some reply =>
        rw [serve_of_answered hearly] at h
        cases h
    | none =>
        rw [earliest_eq_none_iff] at hearly
        refine .inr ?_
        cases hown : (d.ownReply request (requestId request fresh)).value with
        | returned reply => rwa [serve_of_returned hearly hown] at h
        | panicked payload => rwa [serve_of_panicked hearly hown] at h

/-- **No dispatch misses a handler** if the route that it selects leads somewhere. -/
theorem handlerMissing_notMem_events
    (target : (d.selection request).route.target.isSome = true) (name : String) :
    .handlerMissing name ∉ (d.dispatch now fresh request).events := by
  intro h
  rcases mem_events_dispatch h with h | h
  · exact handlerMissing_notMem_errorReply _ _ _ _ name h
  · rw [ownReply_eq, Journal.events_bind, List.mem_append] at h
    rcases h with h | h
    · exact handlerMissing_notMem_conclude target name h
    · exact handlerMissing_notMem_reply _ _ _ name h

end Dispatcher

namespace RoutePlan

/-- **Which plans are built, and what their tables are good for.**  A table is built exactly from
a sound plan, and else the first fault is reported.  The routes of a table are the definitions of
its plan, in order, and no request to a dispatcher with this table ever misses a handler. -/
theorem built_iff_sound_and_handles (p : RoutePlan) :
    ((∃ t, p.build = .ok t) ↔ Sound p) ∧
      (∀ e, p.build = .error e ↔ Reports p e) ∧
      ∀ t, p.build = .ok t →
        List.Forall₂ Declares p.definitions t.routes ∧
          ∀ d : Dispatcher, d.routes = t → ∀ now fresh request name,
            .handlerMissing name ∉ (d.dispatch now fresh request).events := by
  refine ⟨exists_build_iff, fun _ => build_eq_error_iff, fun t built => ⟨?_, ?_⟩⟩
  · exact (forall₂_routes_of_build built).imp fun _ _ => declares_of_compile
  · rintro d rfl now fresh request name
    exact Dispatcher.handlerMissing_notMem_events
      (isSome_target_of_build built _ (d.routes.route_select_mem ..)) name

/-- A handler and a redirect below one base path; and a plan with two faults, of which the
missing handler comes first. -/
theorem built_iff_sound_and_handles_shop :
    let item : RouteDefinition :=
      (RouteDefinition.ofTemplate .get "/items/{id}").withHandler defaultNotFound
    let old : RouteDefinition := .redirect .get "/old" "/shop"
    let shop : RoutePlan := ((empty.under "/shop/").add item).add old
    let items : RouteDefinition := .ofTemplate .get "/items/"
    let broken : RoutePlan := (shop.add items).add (.ofTemplate .get "/cart\x7b")
    (∃ t, shop.build = .ok t ∧ List.Forall₂ Declares shop.definitions t.routes ∧
        ∀ now fresh request name, .handlerMissing name ∉
          ((Dispatcher.ofRoutes t Registry.builtIn).dispatch now fresh request).events) ∧
      ¬ Sound broken ∧ broken.build = .error (.missingHandler .get "/shop/items") := by
  intro item old shop items broken
  have hitem : Pattern.compile (wholeTemplate ("/shop/", item))
      = .ok ⟨"/shop/items/{id}", [.literal "shop", .literal "items", .capture "id"]⟩ := by
    decide
  have hold : Pattern.compile (wholeTemplate ("/shop/", old))
      = .ok ⟨"/shop/old", [.literal "shop", .literal "old"]⟩ := by
    decide
  have hitems : Pattern.compile (wholeTemplate ("/shop/", items))
      = .ok ⟨"/shop/items", [.literal "shop", .literal "items"]⟩ := by
    decide
  have hnotFound : Pattern.compile "/404" = .ok ⟨"/404", [.literal "404"]⟩ := by decide
  have hcompiles : ∀ x ∈ shop.definitions, ∃ p, Pattern.compile (wholeTemplate x) = .ok p :=
    List.forall_mem_cons.2 ⟨⟨_, hitem⟩, List.forall_mem_singleton.2 ⟨_, hold⟩⟩
  have hleads : ∀ x ∈ shop.definitions, x.2.target.isSome = true :=
    List.forall_mem_cons.2 ⟨rfl, List.forall_mem_singleton.2 rfl⟩
  have hdistinct : (shop.definitions.map key).Nodup := by decide
  have hshop : Sound shop := ⟨hcompiles, hleads, hdistinct, _, hnotFound⟩
  have hfine : FineAfter [] shop.definitions :=
    fineAfter_iff.2 ⟨hcompiles, hleads, hdistinct, fun _ _ => List.not_mem_nil⟩
  have hkey : key ("/shop/", items) = (.get, "/shop/items") := by decide
  have hoffends : Offends shop.definitions ("/shop/", items)
      (.missingHandler (key ("/shop/", items)).1 (key ("/shop/", items)).2) :=
    .missing ⟨_, hitems⟩ rfl
  rw [hkey] at hoffends
  have hsplit : broken.definitions
      = shop.definitions ++ ("/shop/", items) :: [("/shop/", .ofTemplate .get "/cart\x7b")] := rfl
  have hbroken : broken.build = .error (.missingHandler .get "/shop/items") :=
    ((built_iff_sound_and_handles broken).2.1 _).2 (.definition hsplit hfine hoffends)
  obtain ⟨t, built⟩ := (built_iff_sound_and_handles shop).1.2 hshop
  obtain ⟨hdeclares, hhandles⟩ := (built_iff_sound_and_handles shop).2.2 t built
  refine ⟨⟨t, built, hdeclares, hhandles _ rfl⟩, fun hsound => ?_, hbroken⟩
  obtain ⟨t', built'⟩ := (built_iff_sound_and_handles broken).1.2 hsound
  rw [hbroken] at built'
  cases built'

end RoutePlan

end HttpDispatch
