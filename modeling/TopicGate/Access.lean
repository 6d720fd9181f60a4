import TopicGate.UnknownName

/-!
# Access types

What a client asks to do with a topic, and when a declared access grants a requested one.

## Sections
1. The three access types, their names and their broker codes
2. Granting
3. The access types a deployment serves at all
-/

namespace TopicGate

/-! ## §1 Names and codes -/

/-- Access requested on a topic, or declared for one. -/
inductive AccessType where
  | subscribe
  | publish
  /-- Both at once; declared, it satisfies every request. -/
  | publishSubscribe
deriving Repr, DecidableEq

namespace AccessType

def all : List AccessType := [subscribe, publish, publishSubscribe]

def name : AccessType → String
  | subscribe => "subscribe"
  | publish => "publish"
  | publishSubscribe => "publish_subscribe"

/-- The number a broker uses for the access type in its ACL hook. -/
def code : AccessType → Nat
  | subscribe => 1
  | publish => 2
  | publishSubscribe => 3

def ofCode? : Nat → Option AccessType
  | 1 => some subscribe
  | 2 => some publish
  | 3 => some publishSubscribe
  | _ => none

/-- Reads an access type written by name, by short name or by code.  Case is ignored, for ASCII
letters only. -/
def parse (text : String) : Except UnknownName AccessType :=
  let lowered := text.toList.map Char.toLower
  if ["subscribe".toList, "sub".toList, "1".toList].contains lowered then .ok subscribe
  else if ["publish".toList, "pub".toList, "2".toList].contains lowered then .ok publish
  else if ["publish_subscribe".toList, "pubsub".toList, "3".toList].contains lowered then
    .ok publishSubscribe
  else .error ⟨"access type", text⟩

theorem ofCode?_code (a : AccessType) : ofCode? a.code = some a := by
  cases a <;> rfl

/-- No code but an access type's own stands for it. -/
theorem ofCode?_eq_some_iff {n : Nat} {a : AccessType} : ofCode? n = some a ↔ n = a.code := by
  constructor
  · intro h
    unfold ofCode? at h
    split at h <;> simp_all [code]
    all_goals (subst h; rfl)
  · rintro rfl
    exact ofCode?_code a

end AccessType

/-! ## §2 Granting -/

/-- Whether a declared access satisfies a requested one.  The combined access satisfies every
request, and a missing declaration none. -/
def grants (declared : Option AccessType) (requested : AccessType) : Bool :=
  match declared with
  | some .publishSubscribe => true
  | some access => access == requested
  | none => false

/-! ## §3 The allow-list of a deployment -/

/-- The access types a deployment is willing to serve at all, in declaration order. -/
structure AllowedAccess where
  types : List AccessType
deriving Repr, DecidableEq

namespace AllowedAccess

/-- Plain subscriptions and plain publications: what is served when nothing is configured. -/
def standard : AllowedAccess := ⟨[.subscribe, .publish]⟩

/-- Whether requests for `requested` are served.  Membership is literal: listing the combined
access does not admit its halves, nor the halves the whole. -/
def permits (allowed : AllowedAccess) (requested : AccessType) : Bool :=
  allowed.types.contains requested

def isEmpty (allowed : AllowedAccess) : Bool := allowed.types.isEmpty

end AllowedAccess

end TopicGate
