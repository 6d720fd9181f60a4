import TopicGate.Json.Record
import TopicGate.Topic.Pattern

/-!
# Written definitions

How access types, audiences, hash kinds, codec parameters and topic definitions are written in
documents.  In a document names are exact: only the canonical name and one short name are read.
-/

namespace TopicGate

open Json (Dialect Reader)

def AccessType.ofJson? (dialect : Dialect) : Reader AccessType :=
  Json.choice? dialect
    [("subscribe", .subscribe), ("sub", .subscribe), ("publish", .publish), ("pub", .publish),
      ("publish_subscribe", .publishSubscribe), ("pubsub", .publishSubscribe)]

def AccessType.toJson (access : AccessType) : Json := .text access.name

def Audience.ofJson? (dialect : Dialect) : Reader Audience :=
  Json.choice? dialect [("driver", .driver), ("passenger", .passenger)]

def Audience.toJson (audience : Audience) : Json := .text audience.name

def HashKind.ofJson? (dialect : Dialect) : Reader HashKind :=
  Json.choice? dialect
    [("identity", .identity), ("hash_id", .identity), ("secondary_hash", .secondaryHash),
      ("md5", .secondaryHash)]

def HashKind.toJson (kind : HashKind) : Json := .text kind.name

/-- Reads codec parameters; the least length is zero by default. -/
def CodecParams.ofJson? (dialect : Dialect) : Reader CodecParams := fun value => do
  let fields ← Json.fields? dialect 2 value
  let salt ← fields.required "salt" 0 Json.text?
  let length ← fields.withDefault "length" 1 0 Json.uint64?
  return { salt, length }

def CodecParams.toJson (params : CodecParams) : Json :=
  .object [("salt", .text params.salt), ("length", .int params.length.toNat)]

def TopicDefinition.ofJson? (dialect : Dialect) : Reader TopicDefinition := fun value => do
  let fields ← Json.fields? dialect 4 value
  let type ← fields.required "type" 0 Json.text?
  let template ← fields.required "template" 1 Json.text?
  let hashKind ← fields.withDefault "hash_kind" 2 .identity (HashKind.ofJson? dialect)
  let accesses ← fields.withDefault "accesses" 3 TextMap.empty
    (Json.map? (AccessType.ofJson? dialect))
  return { type, template, hashKind, accesses }

/-- A map as an object. -/
def TextMap.toJson {α : Type} (write : α → Json) (m : TextMap α) : Json :=
  .object (m.entries.map fun entry => (entry.1, write entry.2))

def TopicDefinition.toJson (definition : TopicDefinition) : Json :=
  .object
    [("type", .text definition.type), ("template", .text definition.template),
      ("hash_kind", definition.hashKind.toJson),
      ("accesses", definition.accesses.toJson AccessType.toJson)]

end TopicGate
