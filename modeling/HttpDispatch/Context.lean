import HttpDispatch.RequestId

/-!
# Context of a request

What the hooks, the handler and the post-processors of one request share: the
identifier, the path as it was received, the referring page, and attributes under
names.  A handler asks for a temporary redirect by naming its target here.
-/

namespace HttpDispatch

/-- **The state that belongs to one request.** -/
structure Context where
  /-- The identifier of the request. -/
  requestId : RequestId
  /-- The path as received. -/
  path : String
  /-- The referring page, if the request names one. -/
  referer : Option String
  /-- Values under names. -/
  attributes : SortedMap Json
  /-- The target of a temporary redirect, if one is wanted. -/
  redirectTarget : Option String
  deriving DecidableEq, Inhabited

namespace Context

/-- The context at the start of a request. -/
def start (requestId : RequestId) (path : String) (referer : Option String) : Context :=
  ⟨requestId, path, referer, .empty, none⟩

/-- Set an attribute. -/
def put (c : Context) (key : String) (value : Json) : Context :=
  { c with attributes := c.attributes.insert key value }

/-- The value of an attribute. -/
def get? (c : Context) (key : String) : Option Json := c.attributes.get? key

/-- Remove an attribute, giving the value it had. -/
def remove (c : Context) (key : String) : Option Json × Context :=
  (c.get? key, { c with attributes := c.attributes.erase key })

/-- Ask for a temporary redirect; the last target counts. -/
def redirectTo (c : Context) (target : String) : Context :=
  { c with redirectTarget := some target }

/-! ### Laws -/

theorem get?_put (c : Context) (key key' : String) (value : Json) :
    (c.put key value).get? key' = if key' = key then some value else c.get? key' :=
  SortedMap.get?_insert c.attributes key key' value

theorem get?_remove (c : Context) (key key' : String) :
    (c.remove key).2.get? key' = if key' = key then none else c.get? key' :=
  SortedMap.get?_erase c.attributes key key'

@[simp] theorem redirectTarget_redirectTo (c : Context) (target : String) :
    (c.redirectTo target).redirectTarget = some target := rfl

end Context

end HttpDispatch
