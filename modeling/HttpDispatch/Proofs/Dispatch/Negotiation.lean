import HttpDispatch.Proofs.Dispatch.Response
import HttpDispatch.Proofs.Negotiation.Extension

/-!
# The extension that routing sees and the translator

Two places look for an extension.  Routing looks at the **normal form** of the path
(`RouteTable.negotiatedRoute?`), the choice of the translator at the path **as it came**
(`Registry.choose`).  Both read it the same way, so they differ only where the path
does: at one trailing slash.

* What the choice sees routing sees as well, since a path with an extension is its own
  normal form.
* What routing sees selects the translator unless the path ends in a slash.  Then the
  choice finds no extension at all, and the response has the registered translator only
  if the header or the default happens to ask for the same one.

`Dispatcher.translator_agrees_iff` says so for whole dispatches.
-/

namespace HttpDispatch

namespace Registry

variable {r : Registry} {path extension : String}

/-- **What the choice of the translator sees, routing sees as well.** -/
theorem knownExtension?_normalize (h : r.knownExtension? path = some extension) :
    r.knownExtension? (Path.normalize path) = some extension := by
  rwa [normalize_of_knownExtension? h]

/-- A known extension of the path as it came decides. -/
theorem choose_of_knownExtension? {t : Translator}
    (h : r.knownExtension? path = some extension)
    (ht : r.byExtension.get? (Text.lower extension) = some t) (accept : Option String) :
    r.choose path accept = t := by
  rw [choose, forPath?_of_knownExtension? h ht]

/-- A path that ends in a slash leaves the choice to the header and the default. -/
theorem choose_of_getLast?_eq (h : path.toList.getLast? = some '/')
    (accept : Option String) :
    r.choose path accept = (accept.bind r.forAccept?).getD r.fallback := by
  rw [choose, forPath?_of_getLast?_eq h]

end Registry

namespace Dispatcher

/-- What a request asks for apart from its path: by its Accept header, else the
default. -/
def translatorByHeader (d : Dispatcher) (request : Request) : Translator :=
  ((request.header? "accept").bind d.translators.forAccept?).getD d.translators.fallback

/-- **When the extension that routing sees selects the translator.**

For every extension that routing sees a translator is registered, and it is the one
that is used exactly if the path does not end in a slash, or if the rest of the request
asks for the same one.  Conversely, an extension that selects the translator is one that
routing sees.  What is used writes the response, if no hook has answered. -/
theorem translator_agrees_iff (d : Dispatcher) (request : Request) :
    (∀ extension,
      d.translators.knownExtension? (Path.normalize request.path) = some extension →
      ∃ t, d.translators.byExtension.get? (Text.lower extension) = some t ∧
        (d.translator request = t ↔
          request.path.toList.getLast? ≠ some '/' ∨ d.translatorByHeader request = t)) ∧
    (∀ extension, d.translators.knownExtension? request.path = some extension →
      d.translators.knownExtension? (Path.normalize request.path) = some extension ∧
      d.translators.byExtension.get? (Text.lower extension)
        = some (d.translator request)) ∧
    ∀ now fresh response, d.earlyReply request (requestId request fresh) = none →
      (d.dispatch now fresh request).completion = .returned response →
      ∃ reply : Reply, reply.WrittenBy (d.translator request) ∧
        (response = reply.toResponse (requestId request fresh) ∨
          response = d.afterHooks request
            (reply.toResponse (requestId request fresh))) := by
  refine ⟨fun extension hnormal => ?_, fun extension hext => ?_, fun now fresh response => ?_⟩
  · obtain ⟨-, t, ht⟩ := Registry.knownExtension?_eq_some_iff.1 hnormal
    refine ⟨t, ht, ?_⟩
    by_cases hslash : request.path.toList.getLast? = some '/'
    · have hchoice : d.translator request = d.translatorByHeader request :=
        Registry.choose_of_getLast?_eq hslash _
      rw [hchoice]
      exact ⟨.inr, fun h => h.resolve_left fun hne => hne hslash⟩
    · rw [Path.normalize_of_getLast?_ne hslash] at hnormal
      exact iff_of_true (Registry.choose_of_knownExtension? hnormal ht _) (.inl hslash)
  · obtain ⟨-, t, ht⟩ := Registry.knownExtension?_eq_some_iff.1 hext
    have hchoice : d.translator request = t :=
      Registry.choose_of_knownExtension? hext ht _
    rw [hchoice]
    exact ⟨Registry.knownExtension?_normalize hext, ht⟩
  · exact writtenBy_of_completion

/-- A slash behind `/reports/7.xml` turns the report from XML to JSON, though it is
still the report with the number 7. -/
theorem translator_agrees_iff_report :
    let route (name text : String) (segments : List Segment) : Route :=
      ⟨.get, ⟨text, segments⟩, name, [],
        some (.handler fun _ context => (.returned (.ok (.string name)), context)), false⟩
    let d : Dispatcher := .ofRoutes
      (.ofRoutes
        [route "report" "/reports/\x7bid\x7d" [.literal "reports", .capture "id"]]
        (route "not_found" "/404" [.literal "404"])) .builtIn
    let plain : Request := .ofPath .get "/reports/7.xml"
    let slashed : Request := .ofPath .get "/reports/7.xml/"
    let id : RequestId := ⟨0, by decide⟩
    let response : Response :=
      (Reply.ofBytes 200 "application/json" (Utf8.encode "\"report\"".toList)).toResponse id
    d.translators.byExtension.get? "xml" = some (d.translator plain) ∧
      d.translators.knownExtension? (Path.normalize slashed.path) = some "xml" ∧
      d.translators.byExtension.get? "xml" ≠ some (d.translator slashed) ∧
      (d.dispatch 0 id slashed).completion = .returned response ∧
      ∃ reply : Reply, reply.WrittenBy (d.translator slashed) ∧
        (response = reply.toResponse id ∨
          response = d.afterHooks slashed (reply.toResponse id)) := by
  intro route d plain slashed id response
  obtain ⟨-, selected, -⟩ := translator_agrees_iff d plain
  obtain ⟨seen, -, written⟩ := translator_agrees_iff d slashed
  have hknown : d.translators.knownExtension? (Path.normalize slashed.path) = some "xml" := by
    decide
  have hlower : Text.lower "xml" = "xml" := by decide
  have hcompletion : (d.dispatch 0 id slashed).completion = .returned response := by
    decide +kernel
  obtain ⟨t, ht, hiff⟩ := seen "xml" hknown
  rw [hlower] at ht
  have hxml : t.mediaType = "application/xml" := by
    have hget : (d.translators.byExtension.get? "xml").map Translator.mediaType
        = some "application/xml" := by decide
    simpa [ht] using hget
  have hother : ¬ d.translator slashed = t := by
    rw [hiff]
    rintro (hslash | hheader)
    · exact hslash (by decide)
    · have hjson : (d.translatorByHeader slashed).mediaType = "application/json" := by decide
      rw [hheader, hxml] at hjson
      exact absurd hjson (by decide)
  refine ⟨?_, hknown, ?_, hcompletion, written 0 id response rfl hcompletion⟩
  · have hselected := (selected "xml" (by decide)).2
    rwa [hlower] at hselected
  · rw [ht]
    exact fun h => hother (Option.some.inj h).symm

end Dispatcher

end HttpDispatch
