import TopicGate.Json.Basic

/-!
# Claims

What a caller says about itself: who issued the statement, whom it is about, and anything else.
Issuer and subject are claims under configurable names.
-/

namespace TopicGate

/-- Under which names a tenant's tokens carry issuer and subject. -/
structure ClaimNames where
  issuer : String := "iss"
  subject : String := "sub"
deriving Repr, DecidableEq

/-- The claims of a caller. -/
structure Claims where
  issuer : Option String := none
  subject : Option String := none
  /-- The claims besides issuer and subject. -/
  extra : TextMap Json := TextMap.empty

/-- The text of a claim that may name someone: a non-empty text, a number or a truth value.  Any
other value names nobody. -/
def claimText? : Json → Option String
  | .text s => if s = "" then none else some s
  | .int n => some (toString n)
  | .real x => some x.text
  | .bool b => some (if b then "true" else "false")
  | .null | .array _ | .object _ => none

/-- The claims of an object.  The issuer is taken out first, so where both names are one the subject
is missing. -/
def Claims.ofMap (claims : TextMap Json) (names : ClaimNames) : Claims :=
  let others := claims.erase names.issuer
  { issuer := (claims.get? names.issuer).bind claimText?
    subject := (others.get? names.subject).bind claimText?
    extra := others.erase names.subject }

end TopicGate
