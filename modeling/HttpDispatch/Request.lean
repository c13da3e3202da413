import HttpDispatch.Method
import HttpDispatch.RequestValues
import HttpDispatch.Text.Case

/-!
# Requests

What the transport hands over for one request.  Header names are stored in lower
case and looked up without regard to case; of several headers with one name the
last counts.  The path carries neither query nor fragment: `Request.ofTarget` cuts
both off a raw target and records the fields of the query.
-/

namespace HttpDispatch

/-- **A request.** -/
structure Request where
  /-- The method. -/
  method : Method
  /-- The path. -/
  path : String
  /-- The headers, in the order they arrived. -/
  headers : List (String × String)
  /-- The values of query, form and uploads. -/
  values : RequestValues
  /-- The body, if there is one. -/
  body : Option (List UInt8)
  deriving DecidableEq, Inhabited

namespace Request

/-- A request for a path, with nothing else. -/
def ofPath (method : Method) (path : String) : Request := ⟨method, path, [], .empty, none⟩

/-- **A request for a raw target**, such as `/products/1?fields=name`. -/
def ofTarget (method : Method) (target : String) : Request :=
  match Path.splitTarget target with
  | (path, none) => ofPath method path
  | (path, some query) => { ofPath method path with values := .ofQuery query }

/-- Add a header. -/
def withHeader (r : Request) (name value : String) : Request :=
  { r with headers := r.headers ++ [(Text.lower name, value)] }

/-- Add a value under a name. -/
def withValue (r : Request) (name value : String) : Request :=
  { r with values := r.values.add name value }

/-- Set the body, and record its fields. -/
def withFormBody (r : Request) (bytes : List UInt8) : Request :=
  { r with values := r.values.addForm bytes, body := some bytes }

/-- Set the body. -/
def withBody (r : Request) (bytes : List UInt8) : Request := { r with body := some bytes }

/-- Record an upload. -/
def withUpload (r : Request) (name : String) (upload : Upload) : Request :=
  { r with values := r.values.addUpload name upload }

/-- **The value of a header**, the last one if it is repeated. -/
def header? (r : Request) (name : String) : Option String :=
  (r.headers.reverse.find? fun h => Text.lower h.1 = Text.lower name).map Prod.snd

/-- A header that is added last is the one that is found. -/
theorem header?_withHeader (r : Request) (name name' value : String) :
    (r.withHeader name value).header? name' =
      if Text.lower name = Text.lower name' then some value else r.header? name' := by
  by_cases h : Text.lower name = Text.lower name' <;> simp [header?, withHeader, h]

end Request

end HttpDispatch
