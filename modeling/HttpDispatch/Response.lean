import HttpDispatch.Json.Parser
import HttpDispatch.Json.Printer
import HttpDispatch.Negotiation.Translator
import HttpDispatch.RequestId

/-!
# Replies and responses

A `Reply` says how a request is answered: by bytes, by a redirect, or by the
statement that nothing has changed.  Hooks and the dispatcher produce replies; a
`Response` is a reply with the identifier of the request that it answers.

The **outcome** tells which way a dispatch went, apart from the status.
-/

namespace HttpDispatch

/-- Which way a dispatch went. -/
inductive Outcome where
  /-- The handler's value was encoded. -/
  | ok
  /-- The client is sent elsewhere. -/
  | redirect
  /-- The client's copy is still good. -/
  | notModified
  /-- No route matched. -/
  | notFound
  /-- The arguments were refused. -/
  | validationFailed
  /-- The handler or the validator failed. -/
  | handlerFailed
  /-- The handler's value could not be encoded. -/
  | serializationFailed
  /-- There was no permit. -/
  | throttled
  deriving DecidableEq, Repr, Inhabited

/-- What a reply carries. -/
inductive Content where
  /-- Encoded content. -/
  | bytes (bytes : List UInt8)
  /-- Another location, for good or for now. -/
  | redirect (location : String) (permanent : Bool)
  /-- Nothing, since nothing has changed. -/
  | notModified
  deriving DecidableEq, Repr, Inhabited

/-- **An answer to a request.** -/
structure Reply where
  /-- The status code. -/
  status : Nat
  /-- The media type of the content; empty if there are no bytes. -/
  mediaType : String
  /-- The content. -/
  content : Content
  /-- How it came about. -/
  outcome : Outcome
  deriving DecidableEq, Repr, Inhabited

/-- **A reply with the identifier of its request.** -/
structure Response extends Reply where
  /-- The identifier. -/
  requestId : RequestId
  deriving DecidableEq, Repr, Inhabited

namespace Reply

/-- Encoded content. -/
def ofBytes (status : Nat) (mediaType : String) (bytes : List UInt8) : Reply :=
  ⟨status, mediaType, .bytes bytes, .ok⟩

/-- A JSON value as content. -/
def ofJson (status : Nat) (value : Json) : Reply :=
  ofBytes status Translator.json.mediaType (Utf8.encode value.write)

/-- A redirect: status 301 if it is permanent, else 302. -/
def redirect (location : String) (permanent : Bool) : Reply :=
  ⟨if permanent then 301 else 302, "", .redirect location permanent, .redirect⟩

/-- The client's copy is still good. -/
def notModified : Reply := ⟨304, "", .notModified, .notModified⟩

/-- The same reply with another outcome. -/
def withOutcome (r : Reply) (outcome : Outcome) : Reply := { r with outcome }

/-- The bytes of a reply that has some. -/
def bytes? (r : Reply) : Option (List UInt8) := match r.content with
  | .bytes bytes => some bytes
  | _ => none

/-- The content as a JSON value, if it is one. -/
def json? (r : Reply) : Option Json := r.bytes?.bind fun bytes => (Json.parse bytes).toOption

/-- Where a redirect leads. -/
def location? (r : Reply) : Option String := match r.content with
  | .redirect location _ => some location
  | _ => none

/-- The response to the request with an identifier. -/
def toResponse (r : Reply) (requestId : RequestId) : Response := { r with requestId }

end Reply

end HttpDispatch
