import TopicGate.Config.Environment
import TopicGate.Config.File
import TopicGate.Config.Settings

/-!
# Loading a configuration

Layers come from built-in defaults, a file, and the environment.  Sources are loaded in the order of
their precedence, each layer going over those before it, and the first source that cannot be loaded
decides the error.

## Sections
1. Sources
2. Loading
-/

namespace TopicGate

/-! ## §1 Sources -/

/-- The places that sources can have among each other. -/
inductive Precedence where
  | defaults
  | file
  | environment
deriving Repr, DecidableEq

/-- Sources of higher precedence go over those of lower. -/
def Precedence.rank : Precedence → Nat
  | defaults => 10
  | file => 20
  | environment => 50

/-- A source of configuration: its place among the sources, and what is loaded from it. -/
structure ConfigSource where
  precedence : Precedence
  layer : Except ConfigError ConfigLayer

namespace ConfigSource

/-- The built-in defaults set nothing: what stays unset has its default when a layer is finished. -/
def defaults : ConfigSource := ⟨.defaults, .ok {}⟩

def file (state : FileState) : ConfigSource := ⟨.file, state.layer⟩

def environment (values : Environment) : ConfigSource := ⟨.environment, values.layer⟩

end ConfigSource

/-! ## §2 Loading -/

/-- Sources by precedence; those of the same precedence stay in order. -/
def ConfigSource.arrange (sources : List ConfigSource) : List ConfigSource :=
  sources.mergeSort fun a b => a.precedence.rank ≤ b.precedence.rank

/-- The settings that sources amount to. -/
def Settings.ofSources (sources : List ConfigSource) : Except ConfigError Settings := do
  let layers ← (ConfigSource.arrange sources).mapM ConfigSource.layer
  (ConfigLayer.mergeAll layers).finish

def Settings.load (file : FileState) (environment : Environment) : Except ConfigError Settings :=
  Settings.ofSources [.defaults, .file file, .environment environment]

end TopicGate
