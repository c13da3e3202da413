import HttpDispatch.Config.Document
import HttpDispatch.Dispatch.Dispatcher
import HttpDispatch.Proofs.Dispatch.Selection
import HttpDispatch.Proofs.Path.Normalization
import HttpDispatch.Proofs.RouteTable.Registration

/-!
# Where the normal form of a path is taken twice

A look-up in a table takes the normal form of the path itself, and so does a pattern when it is
compiled.  Two places of the dispatcher take it once more of what they have got.

* The **selection of a route** looks up the normal form of the request path.
* The **set-up from a configuration** compares the normal form of the configured not-found
  path with that of the pattern which the table has made of it.

Both would be right if the normal form were its own normal form.  It is not for paths that end
in two slashes (`Path.normalize_normalize_eq_iff`), and for these both go wrong.

* The dispatcher selects a route for a path with one segment less, so it never agrees with its
  table on a match (`RouteTable.negotiatedRoute?_eq_route?_iff`).
* The set-up takes the table for one with another not-found path, although it was built from
  this very configuration (`Dispatcher.ofConfig_refuses_notFoundPath_iff`).
-/

namespace HttpDispatch

/-! ### The selection of a route -/

namespace RouteTable

variable {t : RouteTable} {translators : Registry} {method : Method} {path : String}

/-- A look-up sees of a path its normal form only. -/
theorem route?_congr {path' : String} (h : Path.normalize path = Path.normalize path') :
    t.route? method path = t.route? method path' := by
  have hcount : Path.segmentCount path = Path.segmentCount path' := by
    rw [Path.segmentCount, Path.segmentCount, h]
  have hmatch : ∀ r : Route, r.match? path = r.match? path' := by
    intro r
    rw [Route.match?, Route.match?, Pattern.bind?, Pattern.bind?, h]
  rw [route?, route?, hcount]
  exact congrArg (fun f => List.findSome? f _) (funext hmatch)

/-- What a look-up finds has as many segments as the path. -/
theorem segmentCount_of_route? {m : RouteMatch} (h : t.route? method path = some m) :
    m.route.pattern.segmentCount = Path.segmentCount path :=
  Pattern.segmentCount_of_bind? (mem_of_route?_eq_some h).2.2

/-- Paths with different numbers of segments have no match in common. -/
theorem route?_eq_iff_of_segmentCount_ne {path' : String}
    (h : Path.segmentCount path ≠ Path.segmentCount path') :
    t.route? method path = t.route? method path' ↔
      t.route? method path = none ∧ t.route? method path' = none := by
  constructor
  · intro heq
    cases hm : t.route? method path with
    | none => exact ⟨rfl, by rw [← heq, hm]⟩
    | some m =>
        rw [hm] at heq
        refine absurd ?_ h
        rw [← segmentCount_of_route? hm, ← segmentCount_of_route? heq.symm]
  · rintro ⟨hnone, hnone'⟩
    rw [hnone, hnone']

/-- **When a dispatcher selects what its table finds.**  A path without a known extension is
looked up in its normal form.  That gives the match of the path itself exactly if the path does
not end in two slashes, or if the table has no match either way. -/
theorem negotiatedRoute?_eq_route?_iff
    (hplain : translators.knownExtension? (Path.normalize path) = none) :
    t.negotiatedRoute? translators method path = t.route? method (Path.normalize path) ∧
      (t.negotiatedRoute? translators method path = t.route? method path ↔
        ¬ Path.EndsInTwoSlashes path ∨
          t.route? method path = none ∧ t.route? method (Path.normalize path) = none) := by
  have hselected : t.negotiatedRoute? translators method path
      = t.route? method (Path.normalize path) :=
    negotiatedRoute?_of_knownExtension?_eq_none hplain
  refine ⟨hselected, ?_⟩
  rw [hselected]
  by_cases hends : Path.EndsInTwoSlashes path
  · have hcount : Path.segmentCount (Path.normalize path) ≠ Path.segmentCount path :=
      (Path.segmentCount_normalize_lt hends).ne
    rw [route?_eq_iff_of_segmentCount_ne hcount]
    constructor
    · intro hnone
      exact .inr hnone.symm
    · intro hcases
      exact (hcases.resolve_left fun hnot => hnot hends).symm
  · exact iff_of_true (route?_congr (Path.normalize_normalize_eq_iff.2 hends)) (.inl hends)

/-- A route that is declared with two slashes at its end is what the table finds for its own
text.  The dispatcher selects the route without any for it. -/
theorem negotiatedRoute?_eq_route?_iff_archive :
    let route (name text : String) (segments : List Segment) : Route :=
      ⟨.get, ⟨text, segments⟩, name, [], some (.handler RoutePlan.defaultNotFound), false⟩
    let folder := route "folder" "/archive" [.literal "archive"]
    let slashed := route "slashed" "/archive/" [.literal "archive", .literal ""]
    let t : RouteTable := .ofRoutes [folder, slashed] (route "not_found" "/404" [.literal "404"])
    Pattern.compile "/archive//" = .ok slashed.pattern ∧
      Registry.builtIn.knownExtension? (Path.normalize "/archive//") = none ∧
      t.route? .get "/archive//" = some ⟨slashed, []⟩ ∧
      t.negotiatedRoute? .builtIn .get "/archive//" = some ⟨folder, []⟩ ∧
      t.negotiatedRoute? .builtIn .get "/archive//" ≠ t.route? .get "/archive//" := by
  intro route folder slashed t
  have hplain : Registry.builtIn.knownExtension? (Path.normalize "/archive//") = none := by decide
  have hfound : t.route? .get "/archive//" = some ⟨slashed, []⟩ := by
    refine (t.route?_eq_some_iff _ _ _).2 ⟨⟨[folder], [], rfl, by decide, ?_, nofun⟩, by decide⟩
    intro r hr hserves
    rw [List.mem_singleton.1 hr] at hserves
    exact absurd hserves (by decide)
  have hlooked : t.route? .get (Path.normalize "/archive//") = some ⟨folder, []⟩ := by
    refine (t.route?_eq_some_iff _ _ _).2 ⟨⟨[], [slashed], rfl, by decide, nofun, ?_⟩, by decide⟩
    intro r hr hserves
    rw [List.mem_singleton.1 hr] at hserves
    exact absurd hserves (by decide)
  obtain ⟨hselected, hiff⟩ := @negotiatedRoute?_eq_route?_iff t .builtIn .get "/archive//" hplain
  refine ⟨by decide, hplain, hfound, hselected.trans hlooked, ?_⟩
  rw [Ne, hiff]
  rintro (hnot | ⟨hnone, -⟩)
  · exact hnot (by decide)
  · rw [hfound] at hnone
    cases hnone

end RouteTable

/-! ### The set-up from a configuration -/

namespace RoutePlan

/-- The path of the not-found route stays, unless a call sets it. -/
theorem notFoundPath_foldl_apply {calls : List Call} (h : ∀ path, .notFoundPath path ∉ calls)
    (p : RoutePlan) : (calls.foldl apply p).notFoundPath = p.notFoundPath := by
  induction calls generalizing p with
  | nil => rfl
  | cons call calls ih =>
      have htail : (calls.foldl apply (p.apply call)).notFoundPath
          = (p.apply call).notFoundPath :=
        ih (fun path hpath => h path (List.mem_cons_of_mem _ hpath)) (p.apply call)
      rw [List.foldl_cons, htail]
      cases call with
      | under | add | notFound => rfl
      | notFoundPath path => exact absurd List.mem_cons_self (h path)

/-- The pattern of the not-found route has the normal form of its path as text. -/
theorem text_notFound_of_build {p : RoutePlan} {t : RouteTable} (h : p.build = .ok t) :
    t.notFound.pattern.text = Path.normalize p.notFoundPath := by
  have hcompile := (compile_of_build h).2
  unfold compileNotFound at hcompile
  cases hpattern : Pattern.compile p.notFoundPath with
  | error e => simp [hpattern] at hcompile
  | ok pattern =>
      simp only [hpattern, Except.ok.injEq] at hcompile
      rw [← hcompile]
      unfold Pattern.compile at hpattern
      split at hpattern
      · cases hpattern
      · dsimp only at hpattern
        split at hpattern
        · cases hpattern
        · cases hpattern
          rfl

end RoutePlan

namespace Registry

/-- Further extensions fail for an unknown media type only. -/
theorem exists_of_addAliases_eq_error {byMediaType byExtension : SortedMap Translator}
    {aliases : List (String × String)} {e : ConfigError}
    (h : Setup.addAliases byMediaType aliases byExtension = .error e) :
    ∃ extension mediaType, e = .unknownMediaType extension mediaType := by
  induction aliases generalizing byExtension with
  | nil => cases h
  | cons entry aliases ih =>
      obtain ⟨extension, mediaType⟩ := entry
      rw [Setup.addAliases] at h
      split at h
      · cases h
        exact ⟨extension, mediaType, rfl⟩
      · exact ih h

/-- **What can be wrong with a negotiation section**: an unknown media type or an unknown
default. -/
theorem exists_of_build_eq_error {s : Setup} {e : ConfigError} (h : s.build = .error e) :
    (∃ extension mediaType, e = .unknownMediaType extension mediaType) ∨
      ∃ extension, e = .invalidValue "negotiation.default_extension" extension := by
  unfold Setup.build at h
  cases haliases : Setup.addAliases (Setup.indexByMediaType s.translators) s.aliases
      (Setup.indexByExtension s.translators) with
  | error e' =>
      simp only [haliases, bind, Except.bind] at h
      cases h
      exact .inl (exists_of_addAliases_eq_error haliases)
  | ok byExtension =>
      simp only [haliases, bind, Except.bind] at h
      cases hdefault : s.defaultExtension with
      | none =>
          simp only [hdefault] at h
          cases h
      | some extension =>
          simp only [hdefault] at h
          split at h
          · cases h
            exact .inr ⟨extension, rfl⟩
          · cases h

end Registry

namespace Dispatcher

/-- **When a configuration refuses its own table.**  A table that was built from a configuration,
with whatever routes, is refused for its not-found path exactly if the configured path ends in
two slashes. -/
theorem ofConfig_refuses_notFoundPath_iff {config : Config} {calls : List RoutePlan.Call}
    {t : RouteTable} (kept : ∀ path, .notFoundPath path ∉ calls)
    (built : (calls.foldl RoutePlan.apply (.ofConfig config)).build = .ok t) (now : Rat) :
    (∃ value, ofConfig t config now = .error (.invalidValue "not_found_path" value)) ↔
      Path.EndsInTwoSlashes config.notFoundPath := by
  have htext : t.notFound.pattern.text = Path.normalize config.notFoundPath := by
    rw [RoutePlan.text_notFound_of_build built, RoutePlan.notFoundPath_foldl_apply kept]
    rfl
  rw [ofConfig, htext]
  by_cases hends : Path.EndsInTwoSlashes config.notFoundPath
  · have hne : Path.normalize (Path.normalize config.notFoundPath)
        ≠ Path.normalize config.notFoundPath :=
      fun heq => Path.normalize_normalize_eq_iff.1 heq hends
    rw [if_pos hne]
    exact iff_of_true ⟨_, rfl⟩ hends
  · rw [if_neg (not_not_intro (Path.normalize_normalize_eq_iff.2 hends))]
    refine iff_of_false ?_ hends
    rintro ⟨value, herror⟩
    cases hregistry : Registry.ofSettings config.negotiation with
    | ok translators =>
        rw [hregistry] at herror
        cases herror
    | error e =>
        rw [hregistry] at herror
        cases herror
        rcases Registry.exists_of_build_eq_error hregistry with ⟨_, _, h⟩ | ⟨_, h⟩
        · cases h
        · simp at h

/-- A document that configures the not-found path `/404//` is accepted, and so is a table that
is built from it.  The two do not fit together. -/
theorem ofConfig_refuses_notFoundPath_iff_doubled :
    let config : Config := { Config.default with notFoundPath := "/404//" }
    let calls : List RoutePlan.Call := [.add (RouteDefinition.redirect .get "/old" "/new")]
    let old : Route :=
      ⟨.get, ⟨"/old", [.literal "old"]⟩, "GET /old", [], some (.permanentRedirect "/new"), false⟩
    let notFound : Route :=
      ⟨.get, ⟨"/404/", [.literal "404", .literal ""]⟩, "not_found", [],
        some (.handler RoutePlan.defaultNotFound), false⟩
    let t : RouteTable := .ofRoutes [old] notFound
    Config.parse "not_found_path: /404//\n" = .ok config ∧
      config.override (fun _ => none) = .ok config ∧
      (∀ path, .notFoundPath path ∉ calls) ∧
      (calls.foldl RoutePlan.apply (.ofConfig config)).build = .ok t ∧
      ∃ value, ofConfig t config 0 = .error (.invalidValue "not_found_path" value) := by
  intro config calls old notFound t
  have kept : ∀ path, .notFoundPath path ∉ calls := by
    intro path hpath
    cases List.mem_singleton.1 hpath
  have hold : Pattern.compile (Path.under "" "/old") = .ok ⟨"/old", [.literal "old"]⟩ := by
    decide
  have hnotFound : Pattern.compile "/404//" = .ok ⟨"/404/", [.literal "404", .literal ""]⟩ := by
    decide
  have hname : Method.get.text ++ " " ++ "/old" = "GET /old" := by decide
  have built : (calls.foldl RoutePlan.apply (.ofConfig config)).build = .ok t := by
    simp [calls, config, t, old, notFound, RoutePlan.apply, RoutePlan.add, RoutePlan.ofConfig,
      RoutePlan.empty, RoutePlan.build, RoutePlan.compileAll_nil, RoutePlan.compileAll_cons,
      RoutePlan.compileOne, RoutePlan.compileNotFound, RouteDefinition.compile,
      RouteDefinition.redirect, RouteDefinition.ofTemplate, RoutePlan.notFoundName, hold,
      hnotFound, hname]
  have hends : Path.EndsInTwoSlashes config.notFoundPath := by decide
  exact ⟨by decide +kernel, by decide +kernel, kept, built,
    (ofConfig_refuses_notFoundPath_iff kept built 0).2 hends⟩

end Dispatcher

end HttpDispatch
