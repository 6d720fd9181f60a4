import TopicGate.Account.Timestamp
import TopicGate.Json.Record
import TopicGate.Store

/-!
# Accounts

The records of broker accounts and what can go wrong with them.

## Sections
1. Records
2. Errors
3. Reading and writing
-/

namespace TopicGate

/-! ## §1 Records -/

/-- What an account is for. -/
inductive AccountKind where
  | superuser
  | thirdParty
deriving Repr, DecidableEq

namespace AccountKind

def name : AccountKind → String
  | superuser => "superuser"
  | thirdParty => "third_party"

def named : List (String × AccountKind) :=
  [(superuser.name, superuser), (thirdParty.name, thirdParty)]

end AccountKind

/-- An account. -/
structure Account where
  username : String
  passwordHash : String
  kind : AccountKind
  createdAt : Timestamp
  modifiedAt : Timestamp
deriving Repr, DecidableEq

/-! ## §2 Errors -/

/-- Why an account call fails. -/
inductive AccountError where
  | alreadyExists (username : String)
  | notFound (username : String)
  | emptyCredentials
  /-- The password cannot be kept; the text says why. -/
  | passwordHash (text : String)
  | corrupt
  | store (source : StoreError)
deriving Repr, DecidableEq

namespace AccountError

def message : AccountError → String
  | alreadyExists username => "account '" ++ username ++ "' already exists"
  | notFound username => "account '" ++ username ++ "' not found"
  | emptyCredentials => "username and password must not be empty"
  | passwordHash text => "password hashing failed: " ++ text
  | corrupt => "account record is corrupt"
  | store source => source.message

def ofStoreError : StoreError → AccountError
  | .alreadyExists _ key => alreadyExists key
  | .notFound _ key => notFound key
  | e => store e

end AccountError

/-! ## §3 Reading and writing -/

def Timestamp.ofJson? : Json.Reader Timestamp
  | .text s => Timestamp.read? s
  | _ => none

namespace Account

/-- Reads a record; every field has to be there. -/
def ofJson? : Json.Reader Account := fun value => do
  let fields ← Json.fields? .json 5 value
  let username ← fields.required "username" 0 Json.text?
  let passwordHash ← fields.required "password_hash" 1 Json.text?
  let kind ← fields.required "kind" 2 (Json.choice? .json AccountKind.named)
  let createdAt ← fields.required "created_at" 3 Timestamp.ofJson?
  let modifiedAt ← fields.required "modified_at" 4 Timestamp.ofJson?
  return { username, passwordHash, kind, createdAt, modifiedAt }

def toJson (account : Account) : Json :=
  .object
    [("username", .text account.username), ("password_hash", .text account.passwordHash),
      ("kind", .text account.kind.name), ("created_at", .text account.createdAt.text),
      ("modified_at", .text account.modifiedAt.text)]

end Account

end TopicGate
