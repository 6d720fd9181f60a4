import TopicGate.Config.Layer

/-!
# Settings

The finished configuration of a gateway: its vendors, one of which is the default.

## Sections
1. The settings
2. Consistency
3. Finishing a layer
-/

namespace TopicGate

/-! ## §1 The settings -/

/-- The finished configuration. -/
structure Settings where
  defaultVendor : String
  vendors : List Vendor
  logging : Logging
deriving Repr, DecidableEq

namespace Settings

/-- The vendor of a company; of several the first. -/
def vendor? (settings : Settings) (company : String) : Option Vendor :=
  settings.vendors.find? fun vendor => vendor.company == company

/-! ## §2 Consistency -/

/-- Looks at vendors in order: each must be consistent in itself, and its company new. -/
def checkVendors (seen : List String) : List Vendor → Except ConfigError Unit
  | [] => .ok ()
  | vendor :: rest => do
    vendor.validate
    if vendor.company ∈ seen then throw (.duplicateVendor vendor.company)
    checkVendors (vendor.company :: seen) rest

def validate (settings : Settings) : Except ConfigError Unit := do
  checkVendors [] settings.vendors
  if (settings.vendor? settings.defaultVendor).isNone then
    throw (.unknownDefaultVendor settings.defaultVendor)

end Settings

/-! ## §3 Finishing a layer -/

/-- The settings of a layer that sets everything it has to.  Without a default vendor the first one
is it. -/
def ConfigLayer.finish (layer : ConfigLayer) : Except ConfigError Settings := do
  let vendors := layer.vendors.getD []
  let logging := (layer.logging.getD {}).finish
  let defaultVendor ← match layer.defaultVendor, vendors with
    | some company, _ => .ok company
    | none, vendor :: _ => .ok vendor.company
    | none, [] => .error ConfigError.noVendors
  let settings : Settings := { defaultVendor, vendors, logging }
  settings.validate
  return settings

def Settings.toJson (settings : Settings) : Json :=
  .object
    [("default_vendor", .text settings.defaultVendor),
      ("vendors", .array (settings.vendors.map Vendor.toJson)),
      ("logging", settings.logging.toJson)]

end TopicGate
