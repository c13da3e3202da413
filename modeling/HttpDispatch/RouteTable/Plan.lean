import HttpDispatch.Config.Basic
import HttpDispatch.RouteTable.Basic

/-!
# Building a route table

A `RoutePlan` collects definitions, each with the base path that was in force when
it was added; `RoutePlan.build` compiles them.

The first fault of the first faulty definition is reported.  For one definition
these are, in order: a malformed pattern, no target, and a method and pattern that
an earlier definition has.  The path of the not-found route comes last.
-/

namespace HttpDispatch

/-- Why a table cannot be built. -/
inductive RouteTableError where
  /-- A template is no pattern. -/
  | malformedPattern (error : Pattern.Error)
  /-- A method and a pattern are declared twice. -/
  | duplicateRoute (method : Method) (pattern : String)
  /-- A definition leads nowhere. -/
  | missingHandler (method : Method) (pattern : String)
  deriving DecidableEq, Repr

/-- The wording of an error. -/
def RouteTableError.message : RouteTableError → String
  | malformedPattern e => e.message
  | duplicateRoute method pattern => "duplicate route " ++ method.text ++ " " ++ pattern
  | missingHandler method pattern =>
    "route " ++ method.text ++ " " ++ pattern ++ " has no handler"

/-- **What a table is built from.** -/
structure RoutePlan where
  /-- The definitions in order, each with its base path. -/
  definitions : List (String × RouteDefinition)
  /-- The base path for definitions still to come. -/
  base : String
  /-- The path of the not-found route. -/
  notFoundPath : String
  /-- The handler of the not-found route, if it is not the usual one. -/
  notFound : Option Handler

namespace RoutePlan

/-- Nothing declared. -/
def empty : RoutePlan := ⟨[], "", Config.defaultNotFoundPath, none⟩

/-- Nothing declared; the not-found route has its configured path. -/
def ofConfig (config : Config) : RoutePlan := { empty with notFoundPath := config.notFoundPath }

/-- Put the definitions still to come below a base path. -/
def under (p : RoutePlan) (base : String) : RoutePlan := { p with base }

/-- Add a definition. -/
def add (p : RoutePlan) (d : RouteDefinition) : RoutePlan :=
  { p with definitions := p.definitions ++ [(p.base, d)] }

/-- Set the path of the not-found route. -/
def withNotFoundPath (p : RoutePlan) (path : String) : RoutePlan :=
  { p with notFoundPath := path }

/-- Set the handler of the not-found route. -/
def withNotFound (p : RoutePlan) (run : Handler) : RoutePlan := { p with notFound := some run }

/-- What the not-found route answers unless told otherwise. -/
def defaultNotFound : Handler := fun _ context =>
  (.returned (.ok (.ofMembers [("error", .string "Not Found")])), context)

/-- The name of the handler of the not-found route. -/
def notFoundName : String := "not_found"

/-- Compile one definition, given the methods and patterns declared before. -/
def compileOne (seen : List (Method × String)) (base : String) (d : RouteDefinition) :
    Except RouteTableError Route :=
  match d.compile base with
  | .error e => .error (.malformedPattern e)
  | .ok route =>
    if route.target.isNone then .error (.missingHandler route.method route.pattern.text)
    else if (route.method, route.pattern.text) ∈ seen then
      .error (.duplicateRoute route.method route.pattern.text)
    else .ok route

/-- **Compile definitions in order.** -/
def compileAll (seen : List (Method × String)) :
    List (String × RouteDefinition) → Except RouteTableError (List Route)
  | [] => .ok []
  | (base, d) :: rest =>
    match compileOne seen base d with
    | .error e => .error e
    | .ok route =>
      match compileAll ((route.method, route.pattern.text) :: seen) rest with
      | .error e => .error e
      | .ok routes => .ok (route :: routes)

/-- The not-found route. -/
def compileNotFound (p : RoutePlan) : Except RouteTableError Route :=
  match Pattern.compile p.notFoundPath with
  | .error e => .error (.malformedPattern e)
  | .ok pattern =>
    .ok ⟨.get, pattern, notFoundName, [],
      some (.handler (p.notFound.getD defaultNotFound)), false⟩

/-- **Build the table.** -/
def build (p : RoutePlan) : Except RouteTableError RouteTable :=
  match compileAll [] p.definitions with
  | .error e => .error e
  | .ok routes =>
    match p.compileNotFound with
    | .error e => .error e
    | .ok notFound => .ok (.ofRoutes routes notFound)

end RoutePlan

end HttpDispatch
