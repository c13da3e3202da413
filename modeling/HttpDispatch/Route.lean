import HttpDispatch.Handler
import HttpDispatch.Method
import HttpDispatch.Parameter
import HttpDispatch.Pattern
import HttpDispatch.Text.Quoted

/-!
# Routes

An application declares routes (`RouteDefinition`); compiling one reads its
template and yields a `Route`.  Definitions may be grouped under a base path,
which is put in front of their templates.

## Main definitions

* `Path.under` — a template below a base path
* `RouteDefinition` — what is declared
* `Route` — what requests are matched with
* `RouteDefinition.compile`
-/

namespace HttpDispatch

/-- What a route leads to. -/
inductive Target where
  /-- A handler. -/
  | handler (run : Handler)
  /-- Another location, for good. -/
  | permanentRedirect (location : String)

/-- A description of a target. -/
def Target.inspect : Target → String
  | handler _ => "Handler(..)"
  | permanentRedirect location => "PermanentRedirect(" ++ Text.quoted location ++ ")"

/-- **A template below a base path.**  Slashes at the end of the base do not
count; the template `/` stands for the base itself, and without a base a template
stands for itself. -/
def Path.under (base template : String) : String :=
  let trimmed := (base.toList.reverse.dropWhile (· = '/')).reverse
  if trimmed = [] then template
  else if template = "/" then String.ofList trimmed
  else String.ofList trimmed ++ template

/-- **A declared route.** -/
structure RouteDefinition where
  /-- The method it serves. -/
  method : Method
  /-- The template of its paths. -/
  template : String
  /-- The name of its handler. -/
  name : String
  /-- The parameters of its handler. -/
  parameters : List Parameter
  /-- What it leads to. -/
  target : Option Target
  /-- Whether a client that has a copy is told that nothing has changed. -/
  isStatic : Bool

/-- **A route that requests are matched with.** -/
structure Route where
  /-- The method it serves. -/
  method : Method
  /-- The pattern of its paths. -/
  pattern : Pattern
  /-- The name of its handler. -/
  name : String
  /-- The parameters of its handler. -/
  parameters : List Parameter
  /-- What it leads to. -/
  target : Option Target
  /-- Whether a client that has a copy is told that nothing has changed. -/
  isStatic : Bool

namespace RouteDefinition

/-- A route that leads nowhere yet, named after its method and template. -/
def ofTemplate (method : Method) (template : String) : RouteDefinition :=
  ⟨method, template, method.text ++ " " ++ template, [], none, false⟩

/-- A route that sends the client elsewhere for good. -/
def redirect (method : Method) (template location : String) : RouteDefinition :=
  { ofTemplate method template with target := some (.permanentRedirect location) }

/-- Name the handler. -/
def withName (d : RouteDefinition) (name : String) : RouteDefinition := { d with name }

/-- Declare further parameters. -/
def withParameters (d : RouteDefinition) (parameters : List Parameter) : RouteDefinition :=
  { d with parameters := d.parameters ++ parameters }

/-- Lead to a handler, instead of anything else. -/
def withHandler (d : RouteDefinition) (run : Handler) : RouteDefinition :=
  { d with target := some (.handler run) }

/-- Tell a client that has a copy that nothing has changed. -/
def asStatic (d : RouteDefinition) : RouteDefinition := { d with isStatic := true }

/-- **Compile a definition** below a base path. -/
def compile (d : RouteDefinition) (base : String) : Except Pattern.Error Route :=
  match Pattern.compile (Path.under base d.template) with
  | .error e => .error e
  | .ok pattern => .ok ⟨d.method, pattern, d.name, d.parameters, d.target, d.isStatic⟩

end RouteDefinition

namespace Route

/-- The handler of a route that leads to one. -/
def handler? (r : Route) : Option Handler := match r.target with
  | some (.handler run) => some run
  | _ => none

/-- Where a route sends the client for good. -/
def permanentRedirect? (r : Route) : Option String := match r.target with
  | some (.permanentRedirect location) => some location
  | _ => none

/-- The method and the pattern of a route. -/
def title (r : Route) : String := r.method.text ++ " " ++ r.pattern.text

end Route

end HttpDispatch
