import TopicGate.Config.Settings
import TopicGate.Tenant

/-!
# Gateways

The tenants of a deployment, and the one that answers where no known vendor is named.

## Sections
1. Errors
2. The gateway
3. Choosing a tenant
-/

namespace TopicGate

/-! ## §1 Errors -/

/-- Why a gateway cannot be built. -/
inductive GatewayError where
  | vendor (source : VendorError)
  /-- The default vendor is none of the vendors. -/
  | unknownVendor (company : String)
deriving Repr, DecidableEq

namespace GatewayError

def message : GatewayError → String
  | vendor source => source.message
  | unknownVendor company => "vendor '" ++ company ++ "' is not configured"

/-- The wordings of an error and of each error behind it. -/
def causes (e : GatewayError) : List String :=
  match e with
  | vendor source => source.causes
  | unknownVendor _ => [e.message]

end GatewayError

/-! ## §2 The gateway -/

/-- The tenants of a deployment. -/
structure Gateway where
  tenants : TextMap Tenant
  default : Tenant

namespace Gateway

/-- The tenants of vendors, in order; the first vendor at fault decides the error. -/
def tenantsOf (validator : Validator) : List Vendor → Except GatewayError (List Tenant)
  | [] => .ok []
  | vendor :: rest => do
    let tenant ← (Tenant.ofVendor vendor validator).mapError GatewayError.vendor
    let others ← tenantsOf validator rest
    return tenant :: others

/-- The gateway of settings, with what was noteworthy while it was built.  Of two vendors of one
company the later stays. -/
def ofSettings (settings : Settings) (validator : Validator) :
    Except GatewayError (Gateway × List Warning) := do
  let tenants ← tenantsOf validator settings.vendors
  let byCompany := TextMap.ofList (tenants.map fun tenant => (tenant.company, tenant))
  match byCompany.get? settings.defaultVendor with
  | none => throw (.unknownVendor settings.defaultVendor)
  | some default =>
    return (⟨byCompany, default⟩, tenants.flatMap fun tenant => tenant.policy.registry.warnings)

/-! ## §3 Choosing a tenant -/

/-- The tenant of a vendor, or the default one if the name is missing or unknown. -/
def tenant (gateway : Gateway) (vendor : Option String) : Tenant :=
  (vendor.bind gateway.tenants.get?).getD gateway.default

def defaultVendor (gateway : Gateway) : String := gateway.default.company

/-- The companies of all tenants, in order. -/
def companies (gateway : Gateway) : List String := gateway.tenants.keys

end Gateway

end TopicGate
