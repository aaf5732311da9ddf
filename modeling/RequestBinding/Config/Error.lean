/-!
# Configuration errors

What keeps a configuration from being loaded: a file that cannot be found or
read, a format that is not known, text that is not in its format, a variable or
a setting with a value that it cannot have.
-/

namespace RequestBinding

/-- Why a configuration cannot be loaded. -/
inductive ConfigError where
  | fileNotFound (path : String)
  | unreadable (path : String)
  | unsupportedFormat (format : String)
  | toml
  | json
  | environmentFile
  | invalidVariable (name reason : String)
  | invalidValue (field reason : String)
deriving DecidableEq

/-- The text of the error, where it has one of its own. -/
def ConfigError.message? : ConfigError → Option String
  | fileNotFound p => some ("configuration file not found: " ++ p)
  | unreadable p => some ("failed to read configuration file: " ++ p)
  | unsupportedFormat f => some ("unsupported configuration format: " ++ f)
  | toml => none
  | json => none
  | environmentFile => none
  | invalidVariable n r => some ("failed to parse environment variable " ++ n ++ ": " ++ r)
  | invalidValue f r => some ("invalid configuration value for " ++ f ++ ": " ++ r)

end RequestBinding
