import TopicGate.Claims.Basic
import TopicGate.Config.Error
import TopicGate.Connection.Blacklist
import TopicGate.Topic.Definition

/-!
# Vendors

A vendor is a tenant of the gateway: its company, which every one of its topics starts with, and
everything that decides about its clients.

## Sections
1. The section
2. Consistency
3. Reading and writing
-/

namespace TopicGate

/-! ## §1 The section -/

/-- The configuration of a tenant. -/
structure Vendor where
  company : String
  allowedAccess : List AccessType := AllowedAccess.standard.types
  topics : List TopicDefinition := []
  /-- The audiences of issuers. -/
  issuers : TextMap Audience := TextMap.empty
  claimNames : ClaimNames := {}
  /-- Codec parameters by audience name. -/
  codecParams : TextMap CodecParams := TextMap.empty
  blacklist : Blacklist := {}
deriving Repr, DecidableEq

/-! ## §2 Consistency -/

namespace Vendor

/-- The entries of a table by audience name, with the names read as audiences in name order. -/
def audienceEntries (company : String) :
    List (String × CodecParams) → Except ConfigError (List (Audience × CodecParams))
  | [] => .ok []
  | (name, params) :: rest => do
    let audience ← (Audience.parse name).mapError (ConfigError.unknownCodecAudience company)
    let others ← audienceEntries company rest
    return (audience, params) :: others

/-- The codec parameters with their audiences. -/
def codecEntries (vendor : Vendor) : Except ConfigError (List (Audience × CodecParams)) :=
  audienceEntries vendor.company vendor.codecParams.entries

/-- Refuses the first empty salt. -/
def checkSalts (company : String) : List (Audience × CodecParams) → Except ConfigError Unit
  | [] => .ok ()
  | (audience, params) :: rest =>
    if params.salt = "" then .error (.emptySalt company audience) else checkSalts company rest

/-- Whether a vendor is consistent in itself.  All audience names are read before any salt is
looked at. -/
def validate (vendor : Vendor) : Except ConfigError Unit := do
  if vendor.company = "" then throw .emptyCompany
  if vendor.allowedAccess.isEmpty then throw (.noAccessTypes vendor.company)
  let entries ← vendor.codecEntries
  checkSalts vendor.company entries

end Vendor

/-! ## §3 Reading and writing -/

/-- Reads claim names; a missing one has its usual name. -/
def ClaimNames.ofJson? (dialect : Json.Dialect) : Json.Reader ClaimNames := fun value => do
  let usual : ClaimNames := {}
  let fields ← Json.fields? dialect 2 value
  let issuer ← fields.withDefault "iss_name" 0 usual.issuer Json.text?
  let subject ← fields.withDefault "sub_name" 1 usual.subject Json.text?
  return { issuer, subject }

def ClaimNames.toJson (names : ClaimNames) : Json :=
  .object [("iss_name", .text names.issuer), ("sub_name", .text names.subject)]

namespace Vendor

/-- Reads a vendor; only the company has to be there. -/
def ofJson? (dialect : Json.Dialect) : Json.Reader Vendor := fun value => do
  let fields ← Json.fields? dialect 7 value
  let company ← fields.required "company" 0 Json.text?
  let allowedAccess ← fields.withDefault "allowed_access_types" 1 AllowedAccess.standard.types
    (Json.list? (AccessType.ofJson? dialect))
  let topics ← fields.withDefault "topics" 2 [] (Json.list? (TopicDefinition.ofJson? dialect))
  let issuers ← fields.withDefault "issuers" 3 TextMap.empty
    (Json.map? (Audience.ofJson? dialect))
  let claimNames ← fields.withDefault "jwt" 4 {} (ClaimNames.ofJson? dialect)
  let codecParams ← fields.withDefault "hashids" 5 TextMap.empty
    (Json.map? (CodecParams.ofJson? dialect))
  let blacklist ← fields.withDefault "blacklist" 6 {} (Blacklist.ofJson? dialect)
  return { company, allowedAccess, topics, issuers, claimNames, codecParams, blacklist }

def toJson (vendor : Vendor) : Json :=
  .object
    [("company", .text vendor.company),
      ("allowed_access_types", .array (vendor.allowedAccess.map AccessType.toJson)),
      ("topics", .array (vendor.topics.map TopicDefinition.toJson)),
      ("issuers", vendor.issuers.toJson Audience.toJson),
      ("jwt", vendor.claimNames.toJson),
      ("hashids", vendor.codecParams.toJson CodecParams.toJson),
      ("blacklist", vendor.blacklist.toJson)]

end Vendor

end TopicGate
