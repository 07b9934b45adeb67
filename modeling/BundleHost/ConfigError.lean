/-!
# Configuration errors

What can be wrong with a single option, with a combination of options, or with the place that a
configuration is read from.
-/

namespace BundleHost

inductive ConfigError where
  /-- A value outside the option's closed set, or of the wrong type. -/
  | invalidOption (option value expected : String)
  | unknownOption (name : String)
  /-- A combination of options that is rejected before any work. -/
  | conflict (message : String) (hint : Option String)
  | notFound (path : String)
  | unsupportedFormat (name : String)
  | invalidValue (field : String) (hint : Option String)
  | io (message : String)
  deriving DecidableEq, Repr

namespace ConfigError

def message : ConfigError → String
  | .invalidOption option value expected =>
    "invalid value " ++ value ++ " for option '" ++ option ++ "' (expected " ++ expected ++ ")"
  | .unknownOption name => "unknown option '" ++ name ++ "'"
  | .conflict message _ => message
  | .notFound path => "config not found in " ++ path
  | .unsupportedFormat name => "unsupported configuration format: " ++ name
  | .invalidValue field _ => "invalid config value for '" ++ field ++ "'"
  | .io message => "I/O error: " ++ message

/-- A suggested fix, where one is known. -/
def hint? : ConfigError → Option String
  | .conflict _ hint => hint
  | .invalidValue _ hint => hint
  | _ => none

end ConfigError

end BundleHost
