import TopicGate.Json.Basic

/-!
# Records in documents

How the records of a configuration are read from a document.  A record is an object with a member
for every field, or the list of its fields in order; unknown members are ignored, and a field with
a default may be left out.  A choice is the name of an alternative, or an object with that name as
its only key and an empty payload.  Two document formats differ in small ways, which a `Dialect`
names.

## Sections
1. Dialects
2. Readers of plain values
3. Lists, maps and choices
4. Records
-/

namespace TopicGate.Json

/-! ## §1 Dialects -/

/-- What differs between document formats. -/
structure Dialect where
  /-- A record written as a list may be longer than it has fields. -/
  surplus : Bool
  /-- The payloads that count as empty behind the name of an alternative. -/
  isEmptyPayload : Json → Bool

namespace Dialect

/-- JSON documents: lists of fields have the exact length, and the empty payload is `null`. -/
def json : Dialect where
  surplus := false
  isEmptyPayload
    | .null => true
    | _ => false

/-- TOML documents: surplus items are ignored, and the empty payload is an empty list or table. -/
def toml : Dialect where
  surplus := true
  isEmptyPayload
    | .array items => items.isEmpty
    | .object members => members.isEmpty
    | _ => false

end Dialect

/-! ## §2 Readers of plain values -/

/-- Reads a value of a document, or refuses it. -/
abbrev Reader (α : Type) := Json → Option α

def text? : Reader String
  | .text s => some s
  | _ => none

/-- An integer of at most 64 bits without sign. -/
def uint64? : Reader UInt64
  | .int n => if 0 ≤ n ∧ n.toNat < UInt64.size then some (UInt64.ofNat n.toNat) else none
  | _ => none

/-- A signed integer of 64 bits. -/
def int64? : Reader Int64
  | .int n =>
    if Int64.minValue.toInt ≤ n ∧ n ≤ Int64.maxValue.toInt then some (Int64.ofInt n) else none
  | _ => none

/-- A value that may be `null`. -/
def nullable? {α : Type} (read : Reader α) : Reader (Option α)
  | .null => some none
  | value => (read value).map some

/-! ## §3 Lists, maps and choices -/

def list? {α : Type} (read : Reader α) : Reader (List α)
  | .array items => items.mapM read
  | _ => none

def map? {α : Type} (read : Reader α) : Reader (TextMap α)
  | .object members =>
    (members.mapM fun member => (read member.2).map (member.1, ·)).map TextMap.ofList
  | _ => none

/-- One of several named alternatives. -/
def choice? {α : Type} (dialect : Dialect) (names : List (String × α)) : Reader α
  | .text name => names.lookup name
  | .object [(name, payload)] =>
    if dialect.isEmptyPayload payload then names.lookup name else none
  | _ => none

/-! ## §4 Records -/

/-- The fields of a record as they are written: by name, or by place. -/
inductive Fields where
  | named (members : List (String × Json))
  | listed (items : List Json)

namespace Fields

/-- What is written for the field `name`, which stands at `place`. -/
def get? (fields : Fields) (name : String) (place : Nat) : Option Json :=
  match fields with
  | named members => members.lookup name
  | listed items => items[place]?

/-- A field that must be there. -/
def required {α : Type} (fields : Fields) (name : String) (place : Nat) (read : Reader α) :
    Option α :=
  (fields.get? name place).bind read

/-- A field with a default. -/
def withDefault {α : Type} (fields : Fields) (name : String) (place : Nat) (default : α)
    (read : Reader α) : Option α :=
  match fields.get? name place with
  | none => some default
  | some value => read value

end Fields

/-- The fields of a record with `count` fields. -/
def fields? (dialect : Dialect) (count : Nat) : Reader Fields
  | .object members => some (.named members)
  | .array items => if items.length ≤ count || dialect.surplus then some (.listed items) else none
  | _ => none

end TopicGate.Json
