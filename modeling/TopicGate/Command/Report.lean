import TopicGate.Gateway

/-!
# Reports

What the commands print: a report on the patterns of every vendor, and the decision on a single
request.

## Sections
1. Errors
2. The report on a configuration
3. The decision on a request
-/

namespace TopicGate

/-! ## §1 Errors -/

/-- Why a command fails. -/
inductive CommandError where
  | config (source : ConfigError)
  | vendors (source : GatewayError)
  /-- A request needs either a token or both an issuer and a subject. -/
  | incompleteIdentity
deriving Repr, DecidableEq

namespace CommandError

/-- The wording of an error and of each error behind it. -/
def causes : CommandError → List String
  | config source => [source.message]
  | vendors source => "failed to compile vendors" :: source.causes
  | incompleteIdentity => ["pass either --token or both --issuer and --subject"]

def message (e : CommandError) : String := e.causes.headD ""

/-- The wordings of an error and all errors behind it in one text. -/
def chain (e : CommandError) : String := String.intercalate ": " e.causes

end CommandError

/-- The gateway of settings as commands use it: tokens are read, but there is nobody to validate
them. -/
def Gateway.forCommands (settings : Settings) : Except CommandError (Gateway × List Warning) :=
  (Gateway.ofSettings settings unavailableValidator).mapError .vendors

/-! ## §2 The report on a configuration -/

/-- The lines on a vendor: how many patterns it has, and which of them can never be reached. -/
def Gateway.vendorReport (gateway : Gateway) (company : String) : String :=
  let registry := (gateway.tenant (some company)).policy.registry
  let mark := if company = gateway.defaultVendor then " (default)" else ""
  let shadowed := registry.shadowed.map fun (earlier, later) =>
    "  " ++ later ++ " is shadowed by " ++ earlier ++ "\n"
  company ++ mark ++ ": " ++ toString registry.topics.length ++ " topic patterns\n" ++
    String.join shadowed

/-- The report on all vendors, by company. -/
def Gateway.report (gateway : Gateway) : String :=
  String.join (gateway.companies.map gateway.vendorReport)

/-! ## §3 The decision on a request -/

inductive Identity where
  | token (token : String)
  | claims (issuer subject : String)
deriving Repr, DecidableEq

/-- The identity of a request: either a token alone, or an issuer and a subject. -/
def Identity.ofParts : (token issuer subject : Option String) → Except CommandError Identity
  | some t, none, none => .ok (.token t)
  | none, some i, some s => .ok (.claims i s)
  | _, _, _ => .error .incompleteIdentity

/-- Decides a request at a vendor, or at the default one. -/
def Gateway.request (gateway : Gateway) (vendor : Option String) (access : AccessType)
    (topic : String) (identity : Identity) : Decision :=
  let tenant := gateway.tenant vendor
  match identity with
  | .token token => tenant.decide access token topic
  | .claims issuer subject =>
    tenant.policy.decide access topic { issuer := some issuer, subject := some subject }

def Decision.line (access : AccessType) (topic : String) : Decision → String
  | .allow type => "allow " ++ access.name ++ " on " ++ topic ++ " (" ++ type ++ ")"
  | .deny reason => "deny: " ++ reason.message

end TopicGate
