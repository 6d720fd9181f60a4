import TopicGate.Audience

/-!
# Configuration errors

What can be wrong with a configuration, from the file it is read from to the vendors it lists.
-/

namespace TopicGate

/-- Why there is no usable configuration. -/
inductive ConfigError where
  /-- The file is there but cannot be read as text. -/
  | unreadableFile
  /-- The file holds no TOML document of the expected form. -/
  | malformedFile
  /-- A vendor has codec parameters under a name that is no audience. -/
  | unknownCodecAudience (company : String) (name : UnknownName)
  /-- The variable for the log format names no format. -/
  | unknownLogFormat (value : String)
  | noVendors
  | emptyCompany
  | noAccessTypes (company : String)
  | emptySalt (company : String) (audience : Audience)
  | duplicateVendor (company : String)
  | unknownDefaultVendor (company : String)
deriving Repr, DecidableEq

namespace ConfigError

def logFormatVariable : String := "TOLLGATE_LOG_FORMAT"

/-- The setting whose value is at fault, and what is wrong with it. -/
def invalidValue? : ConfigError → Option (String × String)
  | unknownCodecAudience company name => some ("vendors." ++ company ++ ".hashids", name.message)
  | unknownLogFormat value =>
    some (logFormatVariable, "expected 'pretty' or 'json', got '" ++ value ++ "'")
  | _ => none

/-- What is wrong with a configuration that could be read but is not consistent. -/
def inconsistency? : ConfigError → Option String
  | noVendors => some "no vendors configured"
  | emptyCompany => some "vendor company must not be empty"
  | noAccessTypes company => some ("vendor '" ++ company ++ "' allows no access types")
  | emptySalt company audience =>
    some ("vendor '" ++ company ++ "' has an empty hashids salt for " ++ audience.name)
  | duplicateVendor company => some ("vendor '" ++ company ++ "' is configured more than once")
  | unknownDefaultVendor company => some ("default vendor '" ++ company ++ "' is not configured")
  | _ => none

def message (e : ConfigError) : String :=
  match e.invalidValue?, e.inconsistency? with
  | some (key, text), _ => "invalid value for " ++ key ++ ": " ++ text
  | none, some text => "configuration validation failed: " ++ text
  | none, none => match e with
    | unreadableFile => "failed to read config file"
    | _ => "failed to parse config file"

end ConfigError

end TopicGate
