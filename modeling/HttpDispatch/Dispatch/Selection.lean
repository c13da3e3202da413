import HttpDispatch.Negotiation.Registry
import HttpDispatch.RouteTable.Basic

/-!
# Selecting a route

The extension of the last path segment may ask for a translator instead of being
part of what a route matches.  A path is therefore matched twice if its extension
is known:

* as received — this match counts if no variable was bound to a text that ends
  with the extension, so a route whose own text carries it wins;
* otherwise without the extension, and as received if that matches nothing.
-/

namespace HttpDispatch

/-- Whether a match has bound a text that ends with an extension. -/
def RouteMatch.bindsExtension (m : RouteMatch) (extension : String) : Bool :=
  m.bindings.any fun b => ('.' :: extension.toList).isSuffixOf b.2.toList

/-- **Match a request path**, whose known extension is not for the route. -/
def RouteTable.negotiatedRoute? (t : RouteTable) (translators : Registry) (method : Method)
    (path : String) : Option RouteMatch :=
  let path := Path.normalize path
  let received := t.route? method path
  match translators.knownExtension? path with
  | none => received
  | some extension =>
    if received.any fun m => !m.bindsExtension extension then received
    else (t.route? method (translators.stripKnownExtension path)).or received

/-- The route that a request is served by. -/
structure Selection where
  /-- The route. -/
  route : Route
  /-- The values of its path variables. -/
  bindings : Bindings
  /-- Whether it stands in because no route matched. -/
  isNotFound : Bool

/-- **Select a route**, the not-found route if none matches. -/
def RouteTable.select (t : RouteTable) (translators : Registry) (method : Method)
    (path : String) : Selection :=
  match t.negotiatedRoute? translators method path with
  | some m => ⟨m.route, m.bindings, false⟩
  | none => ⟨t.notFound, [], true⟩

end HttpDispatch
