import HttpDispatch.Route

/-!
# Route tables

A table answers which route serves a method and a path.  Of all routes that match
the one with most literal segments wins, and of those the one that was registered
first.

Only routes of the same method and with as many segments as the path can match.
They are filed together in **buckets**, each in the order of preference, so that
the first match in a bucket is the answer.

## Main definitions

* `Buckets.ofRoutes` — the buckets of some routes
* `RouteTable`
* `RouteTable.route?` — the match for a method and a path
-/

namespace HttpDispatch

/-- What routes are filed under: method and number of segments. -/
abbrev BucketKey := Method × Nat

/-- Routes by method and number of segments. -/
abbrev Buckets := List (BucketKey × List Route)

/-- The bucket that a route belongs in. -/
def Route.bucketKey (r : Route) : BucketKey := (r.method, r.pattern.segmentCount)

/-- Whether a route is to be tried before another or needs no exchange with it:
it has no fewer literal segments. -/
def Route.precedes (a b : Route) : Bool := b.pattern.literalCount ≤ a.pattern.literalCount

namespace Buckets

/-- File a route behind the others of its bucket. -/
def file (r : Route) : Buckets → Buckets
  | [] => [(r.bucketKey, [r])]
  | (key, routes) :: rest =>
    if key = r.bucketKey then (key, routes ++ [r]) :: rest else (key, routes) :: file r rest

/-- The routes filed under a key. -/
def get (key : BucketKey) : Buckets → List Route
  | [] => []
  | (k, routes) :: rest => if k = key then routes else get key rest

/-- **File some routes**, in order, and put each bucket in the order of preference.
Sorting is stable, so routes with equally many literals stay in order. -/
def ofRoutes (routes : List Route) : Buckets :=
  (routes.foldl (fun buckets r => file r buckets) []).map fun (key, routes) =>
    (key, routes.mergeSort Route.precedes)

/-! ### Laws -/

@[simp] theorem get_nil (key : BucketKey) : get key [] = [] := rfl

/-- **Filing a route** puts it at the end of its own bucket and leaves all others. -/
theorem get_file (r : Route) (key : BucketKey) (buckets : Buckets) :
    get key (file r buckets) =
      if key = r.bucketKey then get key buckets ++ [r] else get key buckets := by
  induction buckets with
  | nil =>
    by_cases h : key = r.bucketKey
    · simp [file, get, h]
    · simp [file, get, h, Ne.symm h]
  | cons entry rest ih =>
    obtain ⟨k, routes⟩ := entry
    rw [file]
    split
    · rename_i hk
      subst hk
      by_cases h : key = r.bucketKey
      · simp [get, h]
      · simp [get, h, Ne.symm h]
    · rename_i hk
      by_cases h : k = key
      · subst h
        simp [get, hk]
      · simp only [get, h, if_false, ih]

end Buckets

/-- **A table of routes.** -/
structure RouteTable where
  /-- All routes, in the order of registration. -/
  routes : List Route
  /-- The same routes by method and number of segments. -/
  buckets : Buckets
  /-- The route for requests that match no other. -/
  notFound : Route
  /-- The buckets hold the routes of the table. -/
  buckets_eq : buckets = Buckets.ofRoutes routes

/-- **A route that a request matched**, and what it bound. -/
structure RouteMatch where
  /-- The route. -/
  route : Route
  /-- The values of its path variables, in template order. -/
  bindings : Bindings

/-- The value of a path variable. -/
def RouteMatch.value? (m : RouteMatch) (name : String) : Option String :=
  (m.bindings.reverse.find? fun b => b.1 = name).map Prod.snd

/-- The path variables by name. -/
def RouteMatch.variableMap (m : RouteMatch) : SortedMap String := .ofList m.bindings

/-- Match one route. -/
def Route.match? (r : Route) (path : String) : Option RouteMatch :=
  (r.pattern.bind? path).map fun bindings => ⟨r, bindings⟩

namespace RouteTable

/-- A table of some routes. -/
def ofRoutes (routes : List Route) (notFound : Route) : RouteTable :=
  ⟨routes, Buckets.ofRoutes routes, notFound, rfl⟩

/-- **The match for a method and a path.** -/
def route? (t : RouteTable) (method : Method) (path : String) : Option RouteMatch :=
  (t.buckets.get (method, Path.segmentCount path)).findSome? fun r => r.match? path

/-- The number of routes. -/
def size (t : RouteTable) : Nat := t.routes.length

/-- Whether there are no routes. -/
def isEmpty (t : RouteTable) : Bool := t.routes.isEmpty

/-- Method and pattern of every route. -/
def titles (t : RouteTable) : List String := t.routes.map Route.title

/-- One line about a route. -/
def describe (r : Route) : String := match r.permanentRedirect? with
  | some location => "[route] " ++ r.title ++ " => " ++ location
  | none => "[route] " ++ r.title ++ " -> " ++ r.name

/-- **A listing of the table**, one line for each route. -/
def listing (t : RouteTable) : String :=
  String.join ((("[routes] count=" ++ toString t.size) :: t.routes.map describe).map (· ++ "\n"))

/-- A description of a table. -/
def inspect (t : RouteTable) : String :=
  Text.record "RouteTable"
    [("routes", Text.sequence (t.titles.map Text.quoted)),
      ("not_found", Text.quoted t.notFound.pattern.text)]

end RouteTable

end HttpDispatch
