import TopicGate.Json.Record

/-!
# Blacklists

Users of one issuer that are let through but reported.
-/

namespace TopicGate

/-- The listed users of an issuer.  Without an issuer nobody is listed. -/
structure Blacklist where
  issuer : Option Int64 := none
  users : List UInt64 := []
deriving Repr, DecidableEq

namespace Blacklist

def lists (blacklist : Blacklist) (user : UInt64) (issuer : Int64) : Bool :=
  blacklist.issuer == some issuer && blacklist.users.contains user

/-- Reads a blacklist; by default it has no issuer and no users. -/
def ofJson? (dialect : Json.Dialect) : Json.Reader Blacklist := fun value => do
  let fields ← Json.fields? dialect 2 value
  let issuer ← fields.withDefault "issuer" 0 none (Json.nullable? Json.int64?)
  let users ← fields.withDefault "user_ids" 1 [] (Json.list? Json.uint64?)
  return { issuer, users }

def toJson (blacklist : Blacklist) : Json :=
  .object
    [("issuer", Json.ofOption (fun n => .int n.toInt) blacklist.issuer),
      ("user_ids", .array (blacklist.users.map fun id => .int id.toNat))]

end Blacklist

end TopicGate
