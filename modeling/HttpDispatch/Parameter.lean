import HttpDispatch.Schema

/-!
# Handler parameters

A route declares the parameters of its handler in order.  Each has a name and
takes its value in one of three ways:

* a **simple** parameter is a scalar under its own name;
* a **structured** parameter is built from all keys that its name leads;
* a **body** parameter is the request body, as text or as JSON.

Simple and body parameters are required unless declared otherwise, structured
ones are not.  A default is a raw text; it counts for simple parameters only.
-/

namespace HttpDispatch

/-- How a body is read. -/
inductive BodyFormat where
  /-- As text. -/
  | text
  /-- As a JSON value. -/
  | json
  deriving DecidableEq, Repr

/-- Where the value of a parameter comes from. -/
inductive Source where
  /-- A scalar under the parameter's name. -/
  | simple (kind : ScalarKind)
  /-- Keys led by the parameter's name. -/
  | structured (schema : Schema)
  /-- The request body. -/
  | body (format : BodyFormat)
  deriving Repr, Inhabited

/-- A parameter of a handler. -/
structure Parameter where
  /-- The name that requests use. -/
  name : String
  /-- Where the value comes from. -/
  source : Source
  /-- The raw text to use when the request has none. -/
  default : Option String
  /-- Whether a request without it is refused. -/
  required : Bool
  deriving Repr, Inhabited

namespace Source

/-- A description of a source. -/
def inspect : Source → String
  | simple kind => "Simple(" ++ kind.inspect ++ ")"
  | structured schema => "Complex(" ++ schema.inspect ++ ")"
  | body .text => "Body(Text)"
  | body .json => "Body(Json)"

end Source

namespace Parameter

/-- A required scalar. -/
def simple (name : String) (kind : ScalarKind) : Parameter := ⟨name, .simple kind, none, true⟩

/-- An optional structured value. -/
def structured (name : String) (schema : Schema) : Parameter :=
  ⟨name, .structured schema, none, false⟩

/-- A required body. -/
def body (name : String) (format : BodyFormat) : Parameter := ⟨name, .body format, none, true⟩

/-- The same parameter with a default. -/
def withDefault (p : Parameter) (raw : String) : Parameter := { p with default := some raw }

/-- The same parameter, required or not. -/
def withRequired (p : Parameter) (required : Bool) : Parameter := { p with required }

/-- Whether the parameter is a scalar under its name. -/
def isSimple (p : Parameter) : Bool := match p.source with
  | .simple _ => true
  | _ => false

/-- Whether the parameter is structured. -/
def isStructured (p : Parameter) : Bool := match p.source with
  | .structured _ => true
  | _ => false

end Parameter

end HttpDispatch
