import TopicGate.Topic.Registry

/-!
# Ownership of topics

A client may act only on the topic that is rendered from its own identity.  Ownership is decided by
rendering that topic from the caller's audience and subject, with the segments captured from the
requested one, and comparing the two.
-/

namespace TopicGate

/-- What is needed to say who owns a topic: the patterns of a tenant and the codec of its identity
tokens. -/
structure Ownership where
  registry : Registry
  codec : IdentityCodec

namespace Ownership

/-- The identity token that a topic of the given kind carries for a subject. -/
def identityToken (o : Ownership) (kind : HashKind) (subject : String) (audience : Audience) :
    Except CodecError String := do
  let id ← o.codec.decode subject audience
  match kind with
  | .identity => o.codec.encode id audience
  | .secondaryHash => return secondaryHash id

/-- The fields of the caller's own topic. -/
def ownFields (o : Ownership) (found : TopicMatch) (audience : Audience) (token : String) :
    TopicFields :=
  let fields : TopicFields :=
    { company := o.registry.company, identityToken := some token, segments := found.segments }
  fields.withAudience audience

/-- Whether a recognised topic is the caller's own. -/
def ownsMatch (o : Ownership) (found : TopicMatch) (topic : String) (audience : Audience)
    (subject : String) : Bool :=
  match o.identityToken found.pattern.hashKind subject audience with
  | .error _ => false
  | .ok token =>
    -- An empty rendering means that a value was missing, and is nobody's topic.
    let rendered := found.pattern.render (o.ownFields found audience token)
    rendered != "" && rendered == topic

def owns (o : Ownership) (topic : String) (audience : Audience) (subject : String) : Bool :=
  match o.registry.lookup topic with
  | some found => o.ownsMatch found topic audience subject
  | none => false

end Ownership

end TopicGate
