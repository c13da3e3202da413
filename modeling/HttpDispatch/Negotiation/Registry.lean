import HttpDispatch.ConfigError
import HttpDispatch.Negotiation.Accept
import HttpDispatch.Negotiation.Translator
import HttpDispatch.SortedMap
import HttpDispatch.Text.Quoted

/-!
# The translator registry

Which translator writes a response.  Three things are asked, in this order:

1. the **extension** of the request path, if a translator is registered for it;
2. the **Accept header**, if it is not blank: the best media type that has a
   translator;
3. the **default** translator, and JSON if there is none.

Extensions and media types are compared in lower case.

## Main definitions

* `Registry.extension?` — the extension of a path
* `Registry.knownExtension?`, `Registry.stripKnownExtension`
* `Registry.choose` — the translator for a path and an Accept header
* `Registry.Setup`, `Registry.Setup.build` — how a registry comes about
-/

namespace HttpDispatch

/-- The registered translators. -/
structure Registry where
  /-- By extension, in lower case and without leading dots. -/
  byExtension : SortedMap Translator
  /-- By media type, in lower case. -/
  byMediaType : SortedMap Translator
  /-- The translator for requests that ask for none. -/
  default : Option Translator
  /-- The translator for JSON. -/
  json : Translator

namespace Registry

/-! ### Extensions of paths -/

/-- The last segment of a path, on characters. -/
def lastSegment (path : List Char) : List Char :=
  (path.reverse.takeWhile (· ≠ '/')).reverse

/-- `extension?` on characters. -/
def extensionChars? (path : List Char) : Option (List Char) :=
  match Text.cut? '.' (lastSegment path).reverse with
  | none => none
  | some (extension, stem) =>
    if stem = [] ∨ extension = [] then none else some extension.reverse

/-- **The extension of a path**: what follows the last dot of its last segment,
unless that is nothing, or nothing stands before the dot. -/
def extension? (path : String) : Option String :=
  (extensionChars? path.toList).map String.ofList

/-- The translator registered for the extension of a path. -/
def forPath? (r : Registry) (path : String) : Option Translator :=
  (extension? path).bind fun extension => r.byExtension.get? (Text.lower extension)

/-- **The extension of a path, if a translator is registered for it.** -/
def knownExtension? (r : Registry) (path : String) : Option String :=
  (extension? path).filter fun extension => r.byExtension.contains (Text.lower extension)

/-- A path without its extension and the dot, if the extension is known. -/
def stripKnownExtension (r : Registry) (path : String) : String :=
  match r.knownExtension? path with
  | some extension =>
    String.ofList (path.toList.take (path.toList.length - (extension.toList.length + 1)))
  | none => path

/-! ### Choosing -/

/-- The translator for a media type. -/
def forMediaType? (r : Registry) (mediaType : String) : Option Translator :=
  r.byMediaType.get? (Text.lower mediaType)

/-- The translator that an Accept header asks for. -/
def forAccept? (r : Registry) (header : String) : Option Translator :=
  if Text.trim header.toList = [] then none
  else (Accept.parse header).findSome? fun range => r.byMediaType.get? range.mediaType

/-- The translator for requests that ask for none. -/
def fallback (r : Registry) : Translator := r.default.getD r.json

/-- **The translator for a path and an Accept header.** -/
def choose (r : Registry) (path : String) (accept : Option String) : Translator :=
  match r.forPath? path with
  | some t => t
  | none => (accept.bind r.forAccept?).getD r.fallback

/-- The extensions with a translator, ascending. -/
def extensions (r : Registry) : List String := r.byExtension.keys

/-- A description of a registry. -/
def inspect (r : Registry) : String :=
  Text.record "TranslatorRegistry"
    [("extensions", Text.sequence (r.extensions.map Text.quoted)),
      ("default", Text.optional (r.default.map fun t => Text.quoted t.mediaType))]

/-! ### Setting up -/

/-- What a registry is built from. -/
structure Setup where
  /-- The translators, in order; later ones replace earlier ones. -/
  translators : List Translator
  /-- Further extensions, each with a media type. -/
  aliases : List (String × String)
  /-- The extension of the default translator. -/
  defaultExtension : Option String

namespace Setup

/-- Nothing registered. -/
def empty : Setup := ⟨[], [], none⟩

/-- Register a translator. -/
def register (s : Setup) (t : Translator) : Setup := { s with translators := s.translators ++ [t] }

/-- Register the three built-in translators. -/
def registerBuiltIn (s : Setup) : Setup :=
  ((s.register .json).register .xml).register .text

/-- Let an extension ask for a media type. -/
def addAlias (s : Setup) (extension mediaType : String) : Setup :=
  { s with aliases := s.aliases ++ [(extension, mediaType)] }

/-- Name the extension of the default translator. -/
def withDefault (s : Setup) (extension : String) : Setup :=
  { s with defaultExtension := some extension }

/-- An extension as it is registered: without leading dots, in lower case. -/
def normalizeExtension (extension : String) : String :=
  String.ofList (Text.lowerChars (extension.toList.dropWhile (· = '.')))

/-- The translators by their own extensions. -/
def indexByExtension (translators : List Translator) : SortedMap Translator :=
  .ofList (translators.map fun t => (normalizeExtension t.extension, t))

/-- The translators by their media types. -/
def indexByMediaType (translators : List Translator) : SortedMap Translator :=
  .ofList (translators.map fun t => (Text.lower t.mediaType, t))

/-- **Add further extensions**, in order; the media type has to be known. -/
def addAliases (byMediaType : SortedMap Translator) :
    List (String × String) → SortedMap Translator → Except ConfigError (SortedMap Translator)
  | [], byExtension => .ok byExtension
  | (extension, mediaType) :: rest, byExtension =>
    match byMediaType.get? (Text.lower mediaType) with
    | none => .error (.unknownMediaType extension mediaType)
    | some t => addAliases byMediaType rest (byExtension.insert (normalizeExtension extension) t)

/-- A registry with JSON in it, but without a default. -/
def withJson (byExtension byMediaType : SortedMap Translator) : Registry :=
  match byMediaType.get? Translator.json.mediaType with
  | some t => ⟨byExtension, byMediaType, none, t⟩
  | none =>
    ⟨byExtension.insertIfNew Translator.json.extension .json,
      byMediaType.insert Translator.json.mediaType .json, none, .json⟩

/-- **Build a registry.**  JSON is added unless a translator for it is registered; the
default has to be registered. -/
def build (s : Setup) : Except ConfigError Registry := do
  let byMediaType := indexByMediaType s.translators
  let byExtension ← addAliases byMediaType s.aliases (indexByExtension s.translators)
  let registry := withJson byExtension byMediaType
  match s.defaultExtension with
  | none => return registry
  | some extension =>
    match registry.byExtension.get? (normalizeExtension extension) with
    | none => throw (.invalidValue "negotiation.default_extension" extension)
    | some t => return { registry with default := some t }

end Setup

/-- **The registry of the built-in translators**, without a default. -/
def builtIn : Registry :=
  let translators := Setup.empty.registerBuiltIn.translators
  Setup.withJson (Setup.indexByExtension translators) (Setup.indexByMediaType translators)

end Registry

end HttpDispatch
