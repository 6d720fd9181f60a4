import TopicGate.Config.Error
import TopicGate.Config.Layer

/-!
# Environments

What environment variables contribute to the configuration: the default vendor and how to log.
-/

namespace TopicGate

abbrev Environment := TextMap String

namespace Environment

/-- The value of a variable, unless it is unset or empty. -/
def setting? (environment : Environment) (name : String) : Option String :=
  (environment.get? name).filter (· ≠ "")

/-- Reads the name of a log format without regard to case. -/
def logFormat (value : String) : Except ConfigError LogFormat :=
  let lowered := value.toList.map Char.toLower
  if lowered = LogFormat.pretty.name.toList then .ok .pretty
  else if lowered = LogFormat.json.name.toList then .ok .json
  else .error (.unknownLogFormat value)

/-- The layer of the environment.  Vendors are not read from it. -/
def layer (environment : Environment) : Except ConfigError ConfigLayer := do
  let format ← match environment.setting? ConfigError.logFormatVariable with
    | some value => (logFormat value).map some
    | none => .ok none
  return {
    defaultVendor := environment.setting? "TOLLGATE_DEFAULT_VENDOR"
    logging := some { level := environment.setting? "TOLLGATE_LOG_LEVEL", format } }

end Environment

end TopicGate
