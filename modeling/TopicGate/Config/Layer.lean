import TopicGate.Config.Vendor

/-!
# Configuration layers

Each source of configuration contributes a layer in which anything may be left unset.  Layers are
merged one over the other: what the upper one sets counts, and a list of vendors is taken whole.

## Sections
1. Logging
2. Layers
3. Reading and writing
-/

namespace TopicGate

/-! ## §1 Logging -/

/-- How log lines are written. -/
inductive LogFormat where
  | pretty
  | json
deriving Repr, DecidableEq

def LogFormat.name : LogFormat → String
  | pretty => "pretty"
  | json => "json"

structure Logging where
  level : String := "info"
  format : LogFormat := .pretty
deriving Repr, DecidableEq

/-- What a layer says about logging. -/
structure LoggingLayer where
  level : Option String := none
  format : Option LogFormat := none
deriving Repr, DecidableEq

namespace LoggingLayer

def merge (lower upper : LoggingLayer) : LoggingLayer :=
  { level := upper.level <|> lower.level, format := upper.format <|> lower.format }

/-- The finished section, with defaults for what is unset. -/
def finish (layer : LoggingLayer) : Logging :=
  let usual : Logging := {}
  { level := layer.level.getD usual.level, format := layer.format.getD usual.format }

end LoggingLayer

/-! ## §2 Layers -/

/-- What one source says. -/
structure ConfigLayer where
  defaultVendor : Option String := none
  vendors : Option (List Vendor) := none
  logging : Option LoggingLayer := none
deriving Repr, DecidableEq

namespace ConfigLayer

/-- Puts a layer over another. -/
def merge (lower upper : ConfigLayer) : ConfigLayer :=
  { defaultVendor := upper.defaultVendor <|> lower.defaultVendor
    vendors := upper.vendors <|> lower.vendors
    logging := match upper.logging with
      | some logging => some ((lower.logging.getD {}).merge logging)
      | none => lower.logging }

/-- Layers merged in order over the empty one. -/
def mergeAll (layers : List ConfigLayer) : ConfigLayer := layers.foldl merge {}

end ConfigLayer

/-! ## §3 Reading and writing -/

def LogFormat.ofJson? (dialect : Json.Dialect) : Json.Reader LogFormat :=
  Json.choice? dialect [("pretty", .pretty), ("json", .json)]

def LoggingLayer.ofJson? (dialect : Json.Dialect) : Json.Reader LoggingLayer := fun value => do
  let fields ← Json.fields? dialect 2 value
  let level ← fields.withDefault "level" 0 none (Json.nullable? Json.text?)
  let format ← fields.withDefault "format" 1 none (Json.nullable? (LogFormat.ofJson? dialect))
  return { level, format }

def Logging.toJson (logging : Logging) : Json :=
  .object [("level", .text logging.level), ("format", .text logging.format.name)]

def ConfigLayer.ofJson? (dialect : Json.Dialect) : Json.Reader ConfigLayer := fun value => do
  let fields ← Json.fields? dialect 3 value
  let defaultVendor ← fields.withDefault "default_vendor" 0 none (Json.nullable? Json.text?)
  let vendors ← fields.withDefault "vendors" 1 none
    (Json.nullable? (Json.list? (Vendor.ofJson? dialect)))
  let logging ← fields.withDefault "logging" 2 none
    (Json.nullable? (LoggingLayer.ofJson? dialect))
  return { defaultVendor, vendors, logging }

end TopicGate
