import HttpDispatch.RouteTable.Plan
import Mathlib.Data.List.Forall2

/-!
# From declarations to the routes of a table

An application declares routes by a sequence of calls: each call sets the base
path for the declarations behind it, adds one declaration, or sets up the
not-found route.  This module says which routes the table has in the end.

## Main definitions

* `RoutePlan.Call` — one call; `RoutePlan.ofCalls` — all of them in order
* `RoutePlan.registered` — the definitions of some calls, each with the base path
  in force

## Main statements

* `RoutePlan.definitions_ofCalls` — nothing is lost, and order is kept
* `RoutePlan.forall₂_routes_of_build` — the routes of a table are the compiled
  definitions, one for one and in order
* `RoutePlan.isSome_target_of_build` — every route of a table leads somewhere
* `RoutePlan.build_empty_add` — the table of a single definition
-/

namespace HttpDispatch.RoutePlan

/-- **One call** while routes are declared. -/
inductive Call where
  /-- Put the definitions still to come below a base path. -/
  | under (base : String)
  /-- Add a definition. -/
  | add (definition : RouteDefinition)
  /-- Set the path of the not-found route. -/
  | notFoundPath (path : String)
  /-- Set the handler of the not-found route. -/
  | notFound (run : Handler)

/-- What a call does to a plan. -/
def apply (p : RoutePlan) : Call → RoutePlan
  | .under base => p.under base
  | .add definition => p.add definition
  | .notFoundPath path => p.withNotFoundPath path
  | .notFound run => p.withNotFound run

/-- **The plan of some calls**, in order. -/
def ofCalls (calls : List Call) : RoutePlan := calls.foldl apply empty

/-- **The definitions of some calls**, each with the base path in force. -/
def registered : String → List Call → List (String × RouteDefinition)
  | _, [] => []
  | _, .under base :: calls => registered base calls
  | base, .add definition :: calls => (base, definition) :: registered base calls
  | base, .notFoundPath _ :: calls => registered base calls
  | base, .notFound _ :: calls => registered base calls

/-- One call adds the definition it registers, under the base path in force. -/
theorem definitions_apply (p : RoutePlan) (call : Call) (calls : List Call) :
    (p.apply call).definitions ++ registered (p.apply call).base calls
      = p.definitions ++ registered p.base (call :: calls) := by
  cases call with
  | under base => rfl
  | add definition => simp [apply, add, registered]
  | notFoundPath path => rfl
  | notFound run => rfl

theorem definitions_foldl_apply (calls : List Call) (p : RoutePlan) :
    (calls.foldl apply p).definitions = p.definitions ++ registered p.base calls := by
  induction calls generalizing p with
  | nil => simp [registered]
  | cons call calls ih => rw [List.foldl_cons, ih, definitions_apply]

/-- **A plan has the definitions that its calls register**, in order. -/
theorem definitions_ofCalls (calls : List Call) :
    (ofCalls calls).definitions = registered "" calls :=
  definitions_foldl_apply calls empty

/-! ### Compiling in order -/

/-- A definition that passes all checks compiles to its route, which leads somewhere. -/
theorem compile_of_compileOne {seen : List (Method × String)} {base : String}
    {d : RouteDefinition} {r : Route} (h : compileOne seen base d = .ok r) :
    d.compile base = .ok r ∧ r.target.isSome = true := by
  unfold compileOne at h
  cases hcompile : d.compile base with
  | error e => simp [hcompile] at h
  | ok route =>
      simp only [hcompile] at h
      split at h
      · cases h
      · rename_i htarget
        split at h
        · cases h
        · cases h
          exact ⟨rfl, by simpa [Option.isSome_iff_ne_none] using htarget⟩

theorem compileAll_nil (seen : List (Method × String)) : compileAll seen [] = .ok [] := rfl

/-- The first definition is compiled, then the others with its method and pattern in
mind. -/
theorem compileAll_cons (seen : List (Method × String)) (base : String)
    (d : RouteDefinition) (definitions : List (String × RouteDefinition)) :
    compileAll seen ((base, d) :: definitions) =
      match compileOne seen base d with
      | .error e => .error e
      | .ok route =>
        match compileAll ((route.method, route.pattern.text) :: seen) definitions with
        | .error e => .error e
        | .ok routes => .ok (route :: routes) := by
  exact rfl

theorem forall₂_compileAll {seen : List (Method × String)}
    {definitions : List (String × RouteDefinition)} {routes : List Route}
    (h : compileAll seen definitions = .ok routes) :
    List.Forall₂ (fun d r => d.2.compile d.1 = .ok r ∧ r.target.isSome = true)
      definitions routes := by
  induction definitions generalizing seen routes with
  | nil =>
      cases h
      exact .nil
  | cons entry definitions ih =>
      obtain ⟨base, d⟩ := entry
      rw [compileAll_cons] at h
      cases hone : compileOne seen base d with
      | error e => simp [hone] at h
      | ok route =>
          simp only [hone] at h
          cases hall : compileAll ((route.method, route.pattern.text) :: seen) definitions with
          | error e => simp [hall] at h
          | ok rest =>
              simp only [hall, Except.ok.injEq] at h
              subst h
              exact .cons (compile_of_compileOne hone) (ih hall)

/-- A plan that builds has compiled its definitions and its not-found route. -/
theorem compile_of_build {p : RoutePlan} {t : RouteTable} (h : p.build = .ok t) :
    compileAll [] p.definitions = .ok t.routes ∧ p.compileNotFound = .ok t.notFound := by
  unfold build at h
  cases hall : compileAll [] p.definitions with
  | error e => simp [hall] at h
  | ok routes =>
      simp only [hall] at h
      cases hnot : p.compileNotFound with
      | error e => simp [hnot] at h
      | ok notFound =>
          simp only [hnot, Except.ok.injEq] at h
          subst h
          exact ⟨rfl, rfl⟩

/-- **The routes of a table are the compiled definitions**, one for one and in
order. -/
theorem forall₂_routes_of_build {p : RoutePlan} {t : RouteTable}
    (h : p.build = .ok t) :
    List.Forall₂ (fun d r => d.2.compile d.1 = .ok r) p.definitions t.routes :=
  (forall₂_compileAll (compile_of_build h).1).imp fun _ _ hcompile => hcompile.1

/-- The not-found route leads to a handler. -/
theorem isSome_target_of_compileNotFound {p : RoutePlan} {r : Route}
    (h : p.compileNotFound = .ok r) : r.target.isSome = true := by
  unfold compileNotFound at h
  cases hcompile : Pattern.compile p.notFoundPath with
  | error e => simp [hcompile] at h
  | ok pattern =>
      simp only [hcompile] at h
      cases h
      rfl

/-- **Every route of a built table leads somewhere**, the not-found route included. -/
theorem isSome_target_of_build {p : RoutePlan} {t : RouteTable} (h : p.build = .ok t) :
    ∀ r ∈ t.notFound :: t.routes, r.target.isSome = true := by
  obtain ⟨hroutes, hnotFound⟩ := compile_of_build h
  intro r hr
  rcases List.mem_cons.1 hr with rfl | hmem
  · exact isSome_target_of_compileNotFound hnotFound
  · have hcompiled := forall₂_compileAll hroutes
    obtain ⟨i, hi, rfl⟩ := List.mem_iff_getElem.1 hmem
    exact (hcompiled.get (hcompiled.length_eq ▸ hi) hi).2

/-! ### A table of one route -/

/-- The not-found route of a table that is told nothing about it. -/
def usualNotFound : Route :=
  ⟨.get, ⟨"/404", [.literal "404"]⟩, notFoundName, [], some (.handler defaultNotFound), false⟩

theorem build_empty_add {definition : RouteDefinition} {pattern : Pattern}
    (h : Pattern.compile (Path.under "" definition.template) = .ok pattern)
    (target : definition.target.isSome = true) :
    (empty.add definition).build = .ok (.ofRoutes
      [⟨definition.method, pattern, definition.name, definition.parameters, definition.target,
        definition.isStatic⟩] usualNotFound) := by
  have hmissing : Pattern.compile "/404" = .ok ⟨"/404", [.literal "404"]⟩ := by decide
  have htarget : definition.target.isNone = false := by rw [← Option.not_isSome, target]; rfl
  simp [build, add, empty, compileAll_cons, compileAll_nil, compileOne, RouteDefinition.compile, h,
    htarget, compileNotFound, Config.defaultNotFoundPath, hmissing, usualNotFound]

end HttpDispatch.RoutePlan
