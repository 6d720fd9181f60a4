import TopicGate.Access

/-!
# Decisions

The outcome of a request: allowed with the type of the topic, or denied for a reason.
-/

namespace TopicGate

/-- Why a request is denied. -/
inductive DenyReason where
  /-- The deployment does not serve the access type at all. -/
  | invalidAccessType (access : AccessType)
  | issuerMissing
  | subjectMissing
  /-- The claims could not be read; the text says why. -/
  | invalidClaims (text : String)
  | topicNotRecognized (topic : String)
  | topicNotAllowed (issuer subject : String) (access : AccessType) (topic type : String)
deriving Repr, DecidableEq

def DenyReason.message : DenyReason → String
  | invalidAccessType access => "requested access type " ++ access.name ++ " is invalid"
  | issuerMissing => "issuer not found in claims"
  | subjectMissing => "subject not found in claims"
  | invalidClaims text => "token claims could not be read: " ++ text
  | topicNotRecognized topic => "topic " ++ topic ++ " is not recognized"
  | topicNotAllowed issuer subject access topic type =>
    "issuer " ++ issuer ++ " with subject " ++ subject ++ " is not allowed to " ++ access.name ++
      " on topic " ++ topic ++ " (" ++ type ++ ")"

/-- The outcome of a request. -/
inductive Decision where
  /-- Allowed, on a topic of the given type. -/
  | allow (type : String)
  | deny (reason : DenyReason)
deriving Repr, DecidableEq

def Decision.isAllowed : Decision → Bool
  | allow _ => true
  | deny _ => false

end TopicGate
