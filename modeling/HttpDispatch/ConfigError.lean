/-!
# Errors of configuration

What can be wrong with a configuration file, with the environment, or with the
translators that a configuration asks for.
-/

namespace HttpDispatch

/-- An error found while the application starts. -/
inductive ConfigError where
  /-- The file cannot be read. -/
  | unreadable (path reason : String)
  /-- The file is not a configuration document. -/
  | malformed (reason : String)
  /-- A value that is not allowed. -/
  | invalidValue (key value : String)
  /-- An extension asks for a media type that no translator has. -/
  | unknownMediaType (extension mediaType : String)
  deriving DecidableEq, Repr

/-- The wording of an error. -/
def ConfigError.message : ConfigError → String
  | unreadable path reason => "failed to read config file " ++ path ++ ": " ++ reason
  | malformed reason => "invalid config: " ++ reason
  | invalidValue key value => "invalid value for " ++ key ++ ": '" ++ value ++ "'"
  | unknownMediaType extension mediaType =>
    "extension '" ++ extension ++ "' maps to media type '" ++ mediaType
      ++ "' with no registered translator"

end HttpDispatch
