import TopicGate.Config.Layer
import TopicGate.Config.Error
import TopicGate.Toml.Table

/-!
# Configuration files

What a configuration file contributes: nothing where there is no file, and a layer where there is a
TOML document of the right form.
-/

namespace TopicGate

/-- What stands at the path of a file. -/
inductive FileState where
  | missing
  /-- A directory, or a file that is not well-formed text. -/
  | unreadable
  | text (content : String)
deriving Repr, DecidableEq

namespace FileState

/-- The file of given bytes. -/
def ofBytes (bytes : List UInt8) : FileState :=
  match String.fromUTF8? ⟨bytes.toArray⟩ with
  | some content => text content
  | none => unreadable

/-- The layer of a file; a missing file sets nothing. -/
def layer : FileState → Except ConfigError ConfigLayer
  | missing => .ok {}
  | unreadable => .error .unreadableFile
  | text content =>
    match (Toml.parse? content).bind (ConfigLayer.ofJson? .toml) with
    | some layer => .ok layer
    | none => .error .malformedFile

end FileState

/-- Where the configuration file is looked for unless another path is given. -/
def systemConfigPath : String := "/etc/tollgate/config.toml"

end TopicGate
