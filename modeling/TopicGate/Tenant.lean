import TopicGate.Claims.Token
import TopicGate.Connection.Validation
import TopicGate.Request.Policy
import TopicGate.Text.Quoted
import TopicGate.Warning

/-!
# Tenants

A tenant is a vendor that is served: the policy for its topics, the names of its claims, the
validator of its tokens, and its blacklist.

## Sections
1. The tenant
2. Connecting clients
3. Topic requests
4. Descriptions
-/

namespace TopicGate

/-! ## §1 The tenant -/

/-- A vendor that is served. -/
structure Tenant where
  policy : Policy
  claimNames : ClaimNames := {}
  validator : Validator
  blacklist : Blacklist := {}

namespace Tenant

def ofVendor (vendor : Vendor) (validator : Validator) : Except VendorError Tenant := do
  let policy ← Policy.ofVendor vendor
  return { policy, claimNames := vendor.claimNames, validator, blacklist := vendor.blacklist }

def company (tenant : Tenant) : String := tenant.policy.company

/-! ## §2 Connecting clients -/

/-- The warning about a listed user, with everything the token says. -/
def blacklistWarning (payload : Payload) : Warning :=
  { message := "blacklisted user is requesting"
    fields := payload.members.map fun (name, value) =>
      (name, match value with | .text s => s | value => value.render) }

/-- Has a connecting client's token validated.  Listed users are reported and let through. -/
def connect (tenant : Tenant) (token : String) :
    Except ValidatorError Payload × List Warning :=
  match tenant.validator (ValidationRequest.ofToken token) with
  | .error e => (.error e, [])
  | .ok payload =>
    let listed := tenant.blacklist.lists payload.userId payload.issuer
    (.ok payload, if listed then [blacklistWarning payload] else [])

/-- What a client is told whose token was not found genuine. -/
def refusal (e : ValidatorError) : String := "token rejected: " ++ e.message

/-! ## §3 Topic requests -/

/-- Decides a request of the bearer of a token.  The claims are read, not verified: the token was
when its client connected. -/
def decide (tenant : Tenant) (requested : AccessType) (token topic : String) : Decision :=
  match Token.claims token tenant.claimNames with
  | .ok claims => tenant.policy.decide requested topic claims
  | .error e => .deny (.invalidClaims e.message)

/-! ## §4 Descriptions -/

/-- A printable description that keeps codec and blacklist to itself. -/
def describe (tenant : Tenant) : String :=
  "Authenticator \x7b company: " ++ Text.quoted tenant.company ++
    ", claim_names: JwtConfig \x7b iss_name: " ++ Text.quoted tenant.claimNames.issuer ++
    ", sub_name: " ++ Text.quoted tenant.claimNames.subject ++ " \x7d, .. \x7d"

end Tenant

end TopicGate
