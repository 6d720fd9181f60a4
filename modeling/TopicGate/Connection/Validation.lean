import TopicGate.Json.Record

/-!
# Token validation

Whether a token is genuine is decided elsewhere: a validator receives the token as a bearer
credential together with headers that name this service, and answers with the token's payload.

## Sections
1. Payloads
2. Requests
3. Validators
-/

namespace TopicGate

/-! ## §1 Payloads -/

/-- What a validator says about a genuine token. -/
structure Payload where
  userId : UInt64 := 0
  issuer : Int64 := 0
  subject : String := ""
  audience : String := ""
  issuedAt : Int64 := 0
  expiresAt : Int64 := 0
  email : String := ""
  locale : String := ""
  session : String := ""
deriving Repr, DecidableEq

namespace Payload

/-- Reads a payload; every field has a default. -/
def ofJson? (dialect : Json.Dialect) : Json.Reader Payload := fun value => do
  let fields ← Json.fields? dialect 9 value
  let userId ← fields.withDefault "user_id" 0 0 Json.uint64?
  let issuer ← fields.withDefault "iss" 1 0 Json.int64?
  let subject ← fields.withDefault "sub" 2 "" Json.text?
  let audience ← fields.withDefault "aud" 3 "" Json.text?
  let issuedAt ← fields.withDefault "iat" 4 0 Json.int64?
  let expiresAt ← fields.withDefault "exp" 5 0 Json.int64?
  let email ← fields.withDefault "email" 6 "" Json.text?
  let locale ← fields.withDefault "locale" 7 "" Json.text?
  let session ← fields.withDefault "sid" 8 "" Json.text?
  return { userId, issuer, subject, audience, issuedAt, expiresAt, email, locale, session }

/-- The fields of a payload with their names. -/
def members (payload : Payload) : List (String × Json) :=
  [("user_id", .int payload.userId.toNat), ("iss", .int payload.issuer.toInt),
    ("sub", .text payload.subject), ("aud", .text payload.audience),
    ("iat", .int payload.issuedAt.toInt), ("exp", .int payload.expiresAt.toInt),
    ("email", .text payload.email), ("locale", .text payload.locale),
    ("sid", .text payload.session)]

def toJson (payload : Payload) : Json := .object payload.members

end Payload

/-! ## §2 Requests -/

/-- The name under which the gateway introduces itself. -/
def serviceName : String := "tollgate"

/-- What a validator is asked. -/
structure ValidationRequest where
  headers : List (String × String)
  bearer : String
deriving Repr, DecidableEq

/-- The headers of every request, by name. -/
def gatewayHeaders : List (String × String) :=
  [("locale", "en-US"), ("user-agent", serviceName), ("x-app-name", serviceName),
    ("x-service-name", serviceName)]

def ValidationRequest.ofToken (token : String) : ValidationRequest :=
  { headers := gatewayHeaders, bearer := "bearer " ++ token }

/-! ## §3 Validators -/

/-- Why a validator gives no payload. -/
inductive ValidatorError where
  | rejected (text : String)
  | unavailable (text : String)
deriving Repr, DecidableEq

def ValidatorError.message : ValidatorError → String
  | rejected text => "token rejected by validator: " ++ text
  | unavailable text => "validator unavailable: " ++ text

/-- Decides whether a token is genuine. -/
abbrev Validator := ValidationRequest → Except ValidatorError Payload

/-- The validator that stands in where none is configured. -/
def unavailableValidator : Validator := fun _ =>
  .error (.unavailable "no token validator configured")

end TopicGate
