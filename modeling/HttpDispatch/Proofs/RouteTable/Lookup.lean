import HttpDispatch.Proofs.Pattern.Matching
import HttpDispatch.Proofs.Preference
import HttpDispatch.Proofs.RouteTable.Registration

/-!
# What a route table finds

A table files its routes in buckets and sorts each bucket ahead of time; a look-up
opens one bucket and takes the first route that matches.  The main statement,
`RoutePlan.route?_of_build`, says what comes of it in terms of the routes as they
were registered: of all routes of the method whose pattern matches, the one with
most literal segments, and of those the one registered first.  Buckets and order
never hide a route and never change the winner.

The argument has three parts.

* **Filing loses nothing**: a bucket holds exactly the routes of its key, in the
  order of registration (`Buckets.get_ofRoutes`).
* **The key is no further condition**: a pattern has as many segments as the path
  it matches, so whatever serves a request lies in the bucket that is opened
  (`Route.bucketKey_of_serves`).
* **The sort is stable**, so the first match of the bucket is the preferred one
  (`Preference.find?_mergeSort_eq_some_iff`).
-/

namespace HttpDispatch

open Preference

/-! ### Buckets -/

namespace Buckets

/-- Filing some routes appends those of its key to each bucket. -/
theorem get_foldl_file (key : BucketKey) (routes : List Route) (buckets : Buckets) :
    get key (routes.foldl (fun buckets r => file r buckets) buckets)
      = get key buckets ++ routes.filter fun r => key = r.bucketKey := by
  induction routes generalizing buckets with
  | nil => simp
  | cons r routes ih =>
      rw [List.foldl_cons, ih, get_file]
      by_cases h : key = r.bucketKey
      · simp [h]
      · simp [h]

/-- The bucket of a key, after something was done to all buckets. -/
theorem get_map (change : List Route → List Route) (key : BucketKey)
    (buckets : Buckets) (hnil : change [] = []) :
    get key (buckets.map fun (k, routes) => (k, change routes))
      = change (get key buckets) := by
  induction buckets with
  | nil => simp [hnil]
  | cons entry rest ih =>
      obtain ⟨k, routes⟩ := entry
      simp only [List.map_cons, get]
      split
      · rfl
      · exact ih

/-- **A bucket holds the routes of its key**, sorted. -/
theorem get_ofRoutes (key : BucketKey) (routes : List Route) :
    get key (ofRoutes routes)
      = (routes.filter fun r => key = r.bucketKey).mergeSort Route.precedes := by
  rw [ofRoutes, get_map (fun routes => routes.mergeSort Route.precedes) key _ (by simp),
    get_foldl_file, get_nil, List.nil_append]

end Buckets

/-! ### Routes that serve a request -/

namespace Route

/-- Whether a route **serves** a method and a path: it has this very method, and its
pattern matches. -/
def serves (method : Method) (path : String) (r : Route) : Bool :=
  r.method = method ∧ (r.pattern.bind? path).isSome

theorem serves_iff {method : Method} {path : String} {r : Route} :
    r.serves method path = true ↔
      r.method = method ∧ ∃ bindings, r.pattern.bind? path = some bindings := by
  simp [serves, Option.isSome_iff_exists]

/-- What serves a request lies in the bucket that is opened for it. -/
theorem bucketKey_of_serves {method : Method} {path : String} {r : Route}
    (h : r.serves method path = true) :
    (method, Path.segmentCount path) = r.bucketKey := by
  obtain ⟨rfl, bindings, hbind⟩ := serves_iff.1 h
  rw [bucketKey, Pattern.segmentCount_of_bind? hbind]

end Route

/-! ### The look-up -/

namespace RouteTable

/-- **The best match** for a method and a path: the preferred one of all routes that
serve them, with what its pattern binds. -/
structure BestMatch (t : RouteTable) (method : Method) (path : String)
    (m : RouteMatch) : Prop where
  /-- No route before it has as many literal segments and serves the request as well,
  and none behind it has more. -/
  preferred : Preferred (fun r => r.pattern.literalCount)
    (Route.serves method path) t.routes m.route
  /-- It binds what its pattern binds. -/
  bindings : m.route.pattern.bind? path = some m.bindings

variable (t : RouteTable) (method : Method) (path : String)

/-- The first route of the bucket that matches is the preferred one of the table. -/
theorem find?_bucket_eq_some_iff (r : Route) :
    (t.buckets.get (method, Path.segmentCount path)).find?
        (fun r => (r.match? path).isSome) = some r ↔
      Preferred (fun r => r.pattern.literalCount)
        (Route.serves method path) t.routes r := by
  set key : BucketKey := (method, Path.segmentCount path) with hkey
  have inBucket : ∀ r ∈ t.routes.filter (fun r => key = r.bucketKey),
      (r.match? path).isSome = Route.serves method path r := by
    intro r hr
    have hmethod : r.method = method := by
      have := of_decide_eq_true (List.mem_filter.1 hr).2
      exact (congrArg Prod.fst this).symm
    simp [Route.match?, Route.serves, hmethod]
  rw [t.buckets_eq, Buckets.get_ofRoutes, ← preferred_filter_iff
    (fun r => key = r.bucketKey)
    (fun r _ h => decide_eq_true (Route.bucketKey_of_serves h)),
    ← find?_mergeSort_eq_some_iff]
  change ((t.routes.filter fun r => key = r.bucketKey).mergeSort
      (ranksFirst fun r => r.pattern.literalCount)).find? _ = some r ↔ _
  rw [← List.head?_filter, ← List.head?_filter, List.filter_congr fun r hr =>
    inBucket r (List.mem_mergeSort.1 hr)]

/-- The look-up finds the first match of a bucket. -/
theorem route?_eq_bind :
    t.route? method path =
      ((t.buckets.get (method, Path.segmentCount path)).find?
        fun r => (r.match? path).isSome).bind fun r => r.match? path := by
  rw [route?]
  induction t.buckets.get (method, Path.segmentCount path) with
  | nil => rfl
  | cons r routes ih =>
      cases hr : r.match? path with
      | none => simp [hr, ih]
      | some m => simp [hr]

/-- **A look-up finds the best match.** -/
theorem route?_eq_some_iff (m : RouteMatch) :
    t.route? method path = some m ↔ t.BestMatch method path m := by
  rw [route?_eq_bind, Option.bind_eq_some_iff]
  constructor
  · rintro ⟨r, hfind, hmatch⟩
    obtain ⟨bindings, hbind, rfl⟩ := Option.map_eq_some_iff.1 hmatch
    exact ⟨(find?_bucket_eq_some_iff t method path r).1 hfind, hbind⟩
  · intro h
    refine ⟨m.route, (find?_bucket_eq_some_iff t method path m.route).2 h.preferred, ?_⟩
    rw [Route.match?, h.bindings]
    rfl

/-- What is found is a route of the table that matches. -/
theorem mem_of_route?_eq_some {t : RouteTable} {method : Method} {path : String}
    {m : RouteMatch} (h : t.route? method path = some m) :
    m.route ∈ t.routes ∧ m.route.method = method ∧
      m.route.pattern.bind? path = some m.bindings := by
  have hbest := (t.route?_eq_some_iff method path m).1 h
  obtain ⟨before, behind, hroutes, hserves, -, -⟩ := hbest.preferred
  exact ⟨by rw [hroutes]; simp, (Route.serves_iff.1 hserves).1, hbest.bindings⟩

/-- The bucket that is opened holds the routes of the method with as many segments as
the path. -/
theorem mem_bucket_iff (key : BucketKey) (r : Route) :
    r ∈ t.buckets.get key ↔ r ∈ t.routes ∧ key = r.bucketKey := by
  rw [t.buckets_eq, Buckets.get_ofRoutes, List.mem_mergeSort, List.mem_filter,
    decide_eq_true_eq]

/-- **A look-up finds nothing exactly if no pattern of the method matches.** -/
theorem route?_eq_none_iff :
    t.route? method path = none ↔
      ∀ r ∈ t.routes, r.method = method → r.pattern.bind? path = none := by
  rw [route?, List.findSome?_eq_none_iff]
  constructor
  · intro h r hr hmethod
    cases hbind : r.pattern.bind? path with
    | none => rfl
    | some bindings =>
        have hkey := Route.bucketKey_of_serves (Route.serves_iff.2 ⟨hmethod, bindings, hbind⟩)
        have hnone := h r ((mem_bucket_iff t _ r).2 ⟨hr, hkey⟩)
        simp [Route.match?, hbind] at hnone
  · intro h r hr
    obtain ⟨hmem, hkey⟩ := (mem_bucket_iff t _ r).1 hr
    rw [Route.match?, h r hmem (congrArg Prod.fst hkey).symm]
    rfl

/-- **A look-up sees of a route only its method and its pattern.**  Changing the rest of
every route changes the match accordingly. -/
theorem route?_map (change : Route → Route) (hmethod : ∀ r, (change r).method = r.method)
    (hpattern : ∀ r, (change r).pattern = r.pattern) (notFound : Route) :
    (ofRoutes (t.routes.map change) notFound).route? method path =
      (t.route? method path).map fun m => ⟨change m.route, m.bindings⟩ := by
  have hkey (r : Route) : (change r).bucketKey = r.bucketKey := by
    rw [Route.bucketKey, hmethod, hpattern, Route.bucketKey]
  have hprecedes (a b : Route) : Route.precedes a b = Route.precedes (change a) (change b) := by
    rw [Route.precedes, Route.precedes, hpattern, hpattern]
  have hmatch (r : Route) : (change r).match? path
      = (r.match? path).map fun m => ⟨change m.route, m.bindings⟩ := by
    simp [Route.match?, hpattern, Function.comp_def]
  have hbucket (key : BucketKey) :
      (Buckets.ofRoutes (t.routes.map change)).get key
        = ((Buckets.ofRoutes t.routes).get key).map change := by
    rw [Buckets.get_ofRoutes, Buckets.get_ofRoutes, List.filter_map,
      List.map_mergeSort fun a _ b _ => hprecedes a b]
    simp only [Function.comp_def, hkey]
  rw [route?, route?, t.buckets_eq, ofRoutes, hbucket, List.findSome?_map, List.map_findSome?]
  simp only [Function.comp_def, hmatch]

end RouteTable

/-! ### Tables that were built -/

namespace RoutePlan

/-- **A look-up in a built table agrees with a scan of all registered routes.**  The
table has the compiled definitions of the calls, in their order; a look-up finds
nothing exactly if no pattern of the method matches the path, and otherwise the best
match. -/
theorem route?_of_build {calls : List Call} {t : RouteTable}
    (h : (ofCalls calls).build = .ok t) (method : Method) (path : String) :
    List.Forall₂ (fun d r => d.2.compile d.1 = .ok r) (registered "" calls) t.routes ∧
      (t.route? method path = none ↔
        ∀ r ∈ t.routes, r.method = method → r.pattern.bind? path = none) ∧
      ∀ m, t.route? method path = some m ↔ t.BestMatch method path m := by
  refine ⟨?_, t.route?_eq_none_iff method path, t.route?_eq_some_iff method path⟩
  rw [← definitions_ofCalls]
  exact forall₂_routes_of_build h

/-- A group with a variable, a more specific literal behind it, and a route outside the
group: the literal wins, also with a slash at the end of the path. -/
theorem route?_of_build_overlapping :
    let declare (name template : String) : Call :=
      .add (((RouteDefinition.ofTemplate .get template).withName name).withHandler
        defaultNotFound)
    let calls := [.under "/docs/", declare "page" "/\x7bpage\x7d", declare "index" "/index",
      .under "", declare "chapter" "/\x7bpage\x7d"]
    let route (name text : String) (segments : List Segment) : Route :=
      ⟨.get, ⟨text, segments⟩, name, [], some (.handler defaultNotFound), false⟩
    let index := route "index" "/docs/index" [.literal "docs", .literal "index"]
    let table : RouteTable := .ofRoutes
      [route "page" "/docs/\x7bpage\x7d" [.literal "docs", .capture "page"], index,
        route "chapter" "/\x7bpage\x7d" [.capture "page"]]
      (route "not_found" "/404" [.literal "404"])
    (ofCalls calls).build = .ok table ∧
      table.route? .get "/docs/index/" = some ⟨index, []⟩ := by
  intro declare calls route index table
  have first : Pattern.compile (Path.under "/docs/" "/\x7bpage\x7d")
      = .ok ⟨"/docs/\x7bpage\x7d", [.literal "docs", .capture "page"]⟩ := by decide
  have second : Pattern.compile (Path.under "/docs/" "/index")
      = .ok ⟨"/docs/index", [.literal "docs", .literal "index"]⟩ := by decide
  have third : Pattern.compile (Path.under "" "/\x7bpage\x7d")
      = .ok ⟨"/\x7bpage\x7d", [.capture "page"]⟩ := by decide
  have fourth : Pattern.compile "/404" = .ok ⟨"/404", [.literal "404"]⟩ := by decide
  have built : (ofCalls calls).build = .ok table := by
    simp [calls, declare, table, index, route, ofCalls, apply, add, under, empty, build,
      compileAll_nil, compileAll_cons, compileOne, compileNotFound, RouteDefinition.compile,
      RouteDefinition.withHandler, RouteDefinition.withName, RouteDefinition.ofTemplate,
      Config.defaultNotFoundPath, notFoundName, first, second, third, fourth]
  refine ⟨built, ((route?_of_build built .get "/docs/index/").2.2 _).2 ?_⟩
  refine ⟨⟨[_], [_], rfl, by decide, ?_, ?_⟩, by decide⟩
  · intro r hr _
    rw [List.mem_singleton.1 hr]
    decide
  · intro r hr _
    rw [List.mem_singleton.1 hr]
    decide

end RoutePlan

end HttpDispatch
