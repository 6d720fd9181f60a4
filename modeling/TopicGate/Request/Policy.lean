import TopicGate.Claims.Basic
import TopicGate.Config.Vendor
import TopicGate.Request.Decision
import TopicGate.Topic.Ownership

/-!
# The policy of a tenant

A request is allowed if its access type is served at all, the caller has an issuer and a subject,
the topic is recognised, the issuer belongs to an audience with the access on it, and the caller
owns the topic where ownership matters.  The first of these that fails is the reason of the denial.

## Sections
1. Issuers
2. The policy
3. The policy of a vendor
4. Deciding requests
-/

namespace TopicGate

/-! ## §1 Issuers -/

/-- The audiences of the configured issuers. -/
structure IssuerMap where
  entries : TextMap Audience := TextMap.empty
deriving Repr, DecidableEq

/-- The audience of an issuer: the configured one, or else the audience that the issuer names. -/
def IssuerMap.resolve (issuers : IssuerMap) (issuer : String) : Option Audience :=
  match issuers.entries.get? issuer with
  | some audience => some audience
  | none => (Audience.parse issuer).toOption

/-! ## §2 The policy -/

/-- What decides about the requests of one tenant's clients. -/
structure Policy where
  registry : Registry
  codec : IdentityCodec
  allowed : AllowedAccess := .standard
  issuers : IssuerMap := {}

namespace Policy

def company (policy : Policy) : String := policy.registry.company

def ownership (policy : Policy) : Ownership := ⟨policy.registry, policy.codec⟩

end Policy

/-! ## §3 The policy of a vendor -/

/-- Why a vendor cannot be served. -/
inductive VendorError where
  | topics (company : String) (source : TopicError)
  | config (source : ConfigError)
deriving Repr, DecidableEq

namespace VendorError

def message : VendorError → String
  | topics company source =>
    "topics of vendor '" ++ company ++ "' are invalid: " ++ source.message
  | config source => source.message

/-- The wordings of an error and of each error behind it.  A wording may repeat the one behind
it. -/
def causes (e : VendorError) : List String :=
  match e with
  | topics _ source =>
    let behind := match source with
      | .invalidTemplate _ template => [template.message]
      | _ => []
    e.message :: source.message :: behind
  | config _ => [e.message]

end VendorError

namespace Policy

/-- The policy of a vendor.  The topics are compiled before the codec parameters are read. -/
def ofVendor (vendor : Vendor) : Except VendorError Policy := do
  let registry ← (Registry.ofDefinitions vendor.company vendor.topics).mapError
    (VendorError.topics vendor.company)
  let entries ← vendor.codecEntries.mapError VendorError.config
  return {
    registry
    codec := IdentityCodec.ofParams (PerAudience.ofList entries)
    allowed := ⟨vendor.allowedAccess⟩
    issuers := ⟨vendor.issuers⟩ }

/-! ## §4 Deciding requests -/

def audienceOf (policy : Policy) (issuer : String) : Option Audience :=
  policy.issuers.resolve issuer

/-- Whether a topic is the caller's own. -/
def owns (policy : Policy) (topic issuer subject : String) : Bool :=
  match policy.audienceOf issuer with
  | some audience => policy.ownership.owns topic audience subject
  | none => false

/-- Whether an audience may do what is requested on a recognised topic, as the given subject. -/
def permits (policy : Policy) (found : TopicMatch) (topic : String) (audience : Audience)
    (subject : String) (requested : AccessType) : Bool :=
  found.pattern.hasAccess audience requested &&
    (!found.pattern.requiresOwnership ||
      policy.ownership.ownsMatch found topic audience subject)

/-- Decides a request. -/
def decide (policy : Policy) (requested : AccessType) (topic : String) (claims : Claims) :
    Decision :=
  if !policy.allowed.permits requested then .deny (.invalidAccessType requested)
  else match claims.issuer, claims.subject with
    | none, _ => .deny .issuerMissing
    | some _, none => .deny .subjectMissing
    | some issuer, some subject =>
      match policy.registry.lookup topic with
      | none => .deny (.topicNotRecognized topic)
      | some found =>
        let refusal :=
          DenyReason.topicNotAllowed issuer subject requested topic found.pattern.type
        -- An issuer of no audience is refused like one without the access.
        match policy.audienceOf issuer with
        | none => .deny refusal
        | some audience =>
          if policy.permits found topic audience subject requested then
            .allow found.pattern.type
          else .deny refusal

end Policy

end TopicGate
