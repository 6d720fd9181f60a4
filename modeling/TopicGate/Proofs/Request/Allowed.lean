import TopicGate.Request.Policy
import TopicGate.Proofs.Topic.Ownership
import TopicGate.Proofs.Topic.Registry

/-!
# Allowed requests

What a request has passed when it is allowed, and what follows for the caller and for the topic: two
callers on one topic that carries an identity token are one identity, and an allowed topic is what
its pattern renders.

## Main statements
* `decide_eq_allow_iff`: everything that an allowed request has passed.
* `allowed_callers_agree`: nobody is allowed on the topic of another identity.
* `allowed_topic_rendered`: no topic is allowed that its pattern cannot render.
-/

namespace TopicGate.Policy

variable {policy : Policy} {requested : AccessType} {topic type : String} {claims : Claims}

/-! ## §1 What an allowed request has passed -/

/-- Everything that was found when a request was allowed. -/
structure Allows (policy : Policy) (requested : AccessType) (topic : String) (claims : Claims)
    (found : TopicMatch) (issuer subject : String) (audience : Audience) : Prop where
  served : policy.allowed.permits requested = true
  issued : claims.issuer = some issuer
  about : claims.subject = some subject
  recognized : policy.registry.lookup topic = some found
  resolved : policy.audienceOf issuer = some audience
  access : found.pattern.hasAccess audience requested = true
  owned : found.pattern.requiresOwnership = true →
    policy.ownership.ownsMatch found topic audience subject = true

theorem permits_eq_true_iff {found : TopicMatch} {audience : Audience} {subject : String} :
    policy.permits found topic audience subject requested = true ↔
      found.pattern.hasAccess audience requested = true ∧
        (found.pattern.requiresOwnership = true →
          policy.ownership.ownsMatch found topic audience subject = true) := by
  rw [permits, Bool.and_eq_true, Bool.or_eq_true, Bool.not_eq_true', ← Bool.not_eq_true]
  tauto

/-- A request is allowed exactly if it passes every check. -/
theorem decide_eq_allow_iff :
    policy.decide requested topic claims = .allow type ↔
      ∃ found issuer subject audience,
        policy.Allows requested topic claims found issuer subject audience ∧
          found.pattern.type = type := by
  constructor
  · -- Every denial is passed over; what is left has found all that is asked for.
    intro h
    unfold decide at h
    split at h
    · cases h
    · next hserved =>
      split at h
      · cases h
      · cases h
      · next issuer subject hissuer hsubject =>
        split at h
        · cases h
        · next found hfound =>
          split at h
          · cases h
          · next audience haudience =>
            split at h
            · next hpermits =>
              cases h
              obtain ⟨haccess, howned⟩ := permits_eq_true_iff.mp hpermits
              have hserved : policy.allowed.permits requested = true := by simpa using hserved
              exact ⟨found, issuer, subject, audience,
                ⟨hserved, hissuer, hsubject, hfound, haudience, haccess, howned⟩, rfl⟩
            · cases h
  · rintro ⟨found, issuer, subject, audience, h, rfl⟩
    have hpermits := permits_eq_true_iff.mpr ⟨h.access, h.owned⟩
    unfold decide
    simp only [h.served, h.issued, h.about, h.recognized, h.resolved, hpermits]
    rfl

namespace Allows

variable {found : TopicMatch} {issuer subject : String} {audience : Audience}

/-- Where ownership matters, the topic is rendered from the caller's own token. -/
theorem renders (h : policy.Allows requested topic claims found issuer subject audience)
    (howned : found.pattern.requiresOwnership = true) :
    ∃ token, policy.ownership.identityToken found.pattern.hashKind subject audience = .ok token ∧
      policy.ownership.Renders found audience token topic :=
  (Ownership.ownsMatch_eq_true_iff.mp (h.owned howned)).2

end Allows

/-! ### A tenant with a chat and news -/

/-- A chat for each caller, under the caller's own audience and token. -/
def chat : TopicPattern where
  type := "chat"
  template :=
    { parts := [.field .company, .literal "/chat/", .field .audience, .literal "/",
        .field .identityToken, .literal "/", .field (.segment "room")]
      distinct := by decide }
  hashKind := .identity
  accesses := ⟨some .publishSubscribe, some .publishSubscribe⟩

/-- News for passengers, without the company. -/
def news : TopicPattern where
  type := "news"
  template := { parts := [.literal "/news"], distinct := by decide }
  hashKind := .identity
  accesses := ⟨none, some .subscribe⟩

/-- A tenant that serves both. -/
def rides : Policy where
  registry := { company := "snapp", topics := [chat, news], distinct := by decide }
  codec := IdentityCodec.ofParams ⟨some ⟨"driver-salt", 15⟩, some ⟨"passenger-salt", 15⟩⟩
  issuers := ⟨TextMap.ofList [("0", .driver)]⟩

/-! ## §2 Callers on one topic -/

/-- A pattern with an identity token speaks of who is asking. -/
theorem requiresOwnership_of_token {pattern : TopicPattern}
    (h : .identityToken ∈ pattern.template.placeholders) : pattern.requiresOwnership = true :=
  List.any_eq_true.mpr ⟨_, h, rfl⟩

/-- **Nobody is allowed on the topic of another identity.**  Of two allowed requests on one topic
that carries an identity token, callers of one audience have the same subject, or where the token is
a digest, identities with the same digest.  Where a role stands before the tokens, the callers are
of one audience. -/
theorem allowed_callers_agree {found : TopicMatch}
    (hfound : policy.registry.lookup topic = some found)
    (htoken : .identityToken ∈ found.pattern.template.placeholders)
    {requested' : AccessType} {claims' : Claims} {type' : String}
    (h : policy.decide requested topic claims = .allow type)
    (h' : policy.decide requested' topic claims' = .allow type') :
    ∃ issuer subject audience issuer' subject' audience',
      claims.issuer = some issuer ∧ claims.subject = some subject ∧
      policy.audienceOf issuer = some audience ∧
      claims'.issuer = some issuer' ∧ claims'.subject = some subject' ∧
      policy.audienceOf issuer' = some audience' ∧
      (audience = audience' →
        match found.pattern.hashKind with
        | .identity => subject = subject'
        | .secondaryHash => ∃ id id', policy.codec.decode subject audience = .ok id ∧
            policy.codec.decode subject' audience' = .ok id' ∧
            secondaryHash id = secondaryHash id') ∧
      (found.pattern.template.RoleFirst → audience = audience') := by
  obtain ⟨found₁, issuer, subject, audience, hallows, -⟩ := decide_eq_allow_iff.mp h
  obtain ⟨found₂, issuer', subject', audience', hallows', -⟩ := decide_eq_allow_iff.mp h'
  obtain rfl : found = found₁ := Option.some.inj (hfound.symm.trans hallows.recognized)
  obtain rfl : found = found₂ := Option.some.inj (hfound.symm.trans hallows'.recognized)
  have howned := requiresOwnership_of_token htoken
  obtain ⟨token, hidentity, hrenders⟩ := hallows.renders howned
  obtain ⟨token', hidentity', hrenders'⟩ := hallows'.renders howned
  -- Both topics are the same text, which tells the audience and, within one, the token.
  refine ⟨issuer, subject, audience, issuer', subject', audience', hallows.issued, hallows.about,
    hallows.resolved, hallows'.issued, hallows'.about, hallows'.resolved, ?_,
    hrenders.audience_eq hrenders'⟩
  rintro rfl
  obtain rfl : token = token' := hrenders.token_eq hrenders' htoken
  cases hkind : found.pattern.hashKind with
  | identity =>
    -- The token is the subject.
    rw [hkind] at hidentity hidentity'
    exact (Ownership.identityToken_identity_eq_ok_iff.mp hidentity).1.symm.trans
      (Ownership.identityToken_identity_eq_ok_iff.mp hidentity').1
  | secondaryHash =>
    -- The token is the digest of what the subject decodes to.
    rw [hkind] at hidentity hidentity'
    obtain ⟨id, hid, rfl⟩ := Ownership.identityToken_secondaryHash_eq_ok_iff.mp hidentity
    obtain ⟨id', hid', hhash⟩ := Ownership.identityToken_secondaryHash_eq_ok_iff.mp hidentity'
    exact ⟨id, id', hid, hid', hhash⟩

/-- A driver's own chat under both names of the issuer. -/
theorem allowed_callers_agree_chat :
    ∃ found, rides.registry.lookup "snapp/chat/driver/1e5xX4gkEjmPKOo/1" = some found ∧
      .identityToken ∈ found.pattern.template.placeholders ∧
      rides.decide .subscribe "snapp/chat/driver/1e5xX4gkEjmPKOo/1"
        { issuer := some "0", subject := some "1e5xX4gkEjmPKOo" } = .allow "chat" ∧
      rides.decide .publish "snapp/chat/driver/1e5xX4gkEjmPKOo/1"
        { issuer := some "driver", subject := some "1e5xX4gkEjmPKOo" } = .allow "chat" ∧
      ∃ audience, rides.audienceOf "0" = some audience ∧
        rides.audienceOf "driver" = some audience := by
  have hmatch : (rides.registry.lookup "snapp/chat/driver/1e5xX4gkEjmPKOo/1").map
      TopicMatch.pattern = some chat := by
    decide +kernel
  obtain ⟨found, hfound, hpattern⟩ := Option.map_eq_some_iff.mp hmatch
  have htoken : .identityToken ∈ found.pattern.template.placeholders := by
    rw [hpattern]
    decide
  have hrole : found.pattern.template.RoleFirst := by
    rw [hpattern]
    exact ⟨[.company], .audience, [.identityToken, .segment "room"], rfl, Or.inl rfl, by decide⟩
  have hsubscribe : rides.decide .subscribe "snapp/chat/driver/1e5xX4gkEjmPKOo/1"
      { issuer := some "0", subject := some "1e5xX4gkEjmPKOo" } = .allow "chat" := by
    decide +kernel
  have hpublish : rides.decide .publish "snapp/chat/driver/1e5xX4gkEjmPKOo/1"
      { issuer := some "driver", subject := some "1e5xX4gkEjmPKOo" } = .allow "chat" := by
    decide +kernel
  obtain ⟨_, _, audience, _, _, audience', hissuer, -, haudience, hissuer', -, haudience', -, hsame⟩ :=
    allowed_callers_agree hfound htoken hsubscribe hpublish
  cases hissuer
  cases hissuer'
  obtain rfl : audience = audience' := hsame hrole
  exact ⟨found, hfound, htoken, hsubscribe, hpublish, audience, haudience, haudience'⟩

/-! ## §3 The topics that are allowed -/

/-- A topic of a pattern that speaks of nobody is rendered for every caller; only the company that
the registry took off is missing where the template does not begin with it. -/
theorem renders_of_lookup {found : TopicMatch} (hfound : policy.registry.lookup topic = some found)
    (hshared : found.pattern.requiresOwnership = false) (audience : Audience) (token : String) :
    ∃ rendered, policy.ownership.Renders found audience token rendered ∧
      (found.pattern.requiresTenantPrefix = true ∨ ¬policy.registry.Carries topic →
        topic = rendered) ∧
      (found.pattern.requiresTenantPrefix = false → policy.registry.Carries topic →
        topic = policy.company ++ rendered) := by
  obtain ⟨-, hcarried, hcaptures⟩ := Registry.lookup_eq_some hfound
  obtain ⟨cut, hcut, hsegments⟩ := TopicPattern.captures?_eq_some_iff.mp hcaptures
  have hrenders : Template.renderParts? (policy.ownership.ownFields found audience token)
      found.pattern.template.parts = some (if found.pattern.requiresTenantPrefix
        then policy.company ++ (policy.registry.strip topic).1
        else (policy.registry.strip topic).1) := by
    apply hcut.isCut.renderParts? hshared rfl
    intro name piece hmem
    apply (hsegments name _).mpr
    rwa [String.toList_ofList]
  refine ⟨_, hrenders, ?_⟩
  rcases policy.registry.strip_cases topic with ⟨hcarries, rest, htopic, hstrip⟩ | ⟨hnot, hstrip⟩
  · -- The company was taken off, and only a template that begins with it puts it back.
    rw [hstrip]
    constructor
    · rintro (hrequires | hnot)
      · rw [if_pos hrequires]
        exact htopic
      · exact absurd hcarries hnot
    · intro hrequires _
      rw [hrequires]
      exact htopic
  · -- Without the company in front, the pattern cannot ask for it.
    have hrequires : ¬found.pattern.requiresTenantPrefix = true := fun h => hnot (hcarried h)
    rw [hstrip, if_neg hrequires]
    exact ⟨fun _ => rfl, fun _ hcarries => absurd hcarries hnot⟩

/-- **No topic is allowed that its pattern cannot render.**  An allowed topic is what its pattern
renders for the company, the audience of the issuer, a token and the captured segments; where
ownership matters, the token is the caller's own.  Only where ownership does not matter and the
template does not begin with the company, a topic may carry the company in front of what is
rendered. -/
theorem allowed_topic_rendered (h : policy.decide requested topic claims = .allow type) :
    ∃ found issuer subject audience token rendered,
      policy.registry.lookup topic = some found ∧
      policy.registry.get? type = some found.pattern ∧
      claims.issuer = some issuer ∧ claims.subject = some subject ∧
      policy.audienceOf issuer = some audience ∧
      (found.pattern.requiresOwnership = true →
        policy.ownership.identityToken found.pattern.hashKind subject audience = .ok token) ∧
      policy.ownership.Renders found audience token rendered ∧
      (found.pattern.requiresOwnership = true ∨ found.pattern.requiresTenantPrefix = true ∨
          ¬policy.registry.Carries topic → topic = rendered) ∧
      (found.pattern.requiresOwnership = false → found.pattern.requiresTenantPrefix = false →
        policy.registry.Carries topic → topic = policy.company ++ rendered) := by
  obtain ⟨found, issuer, subject, audience, hallows, htype⟩ := decide_eq_allow_iff.mp h
  have hpattern : policy.registry.get? type = some found.pattern := by
    apply Registry.get?_eq_some_iff.mpr
    exact ⟨(Registry.lookup_eq_some hallows.recognized).1, htype⟩
  cases howned : found.pattern.requiresOwnership with
  | true =>
    -- Ownership was decided by rendering.
    obtain ⟨token, hidentity, hrenders⟩ := hallows.renders howned
    exact ⟨found, issuer, subject, audience, token, topic, hallows.recognized, hpattern,
      hallows.issued, hallows.about, hallows.resolved, fun _ => hidentity, hrenders,
      fun _ => rfl, fun hshared => by simp [howned] at hshared⟩
  | false =>
    -- Only the matcher stands between the topic and the caller; any token will do.
    obtain ⟨rendered, hrenders, hkept, htaken⟩ :=
      renders_of_lookup hallows.recognized howned audience ""
    refine ⟨found, issuer, subject, audience, "", rendered, hallows.recognized, hpattern,
      hallows.issued, hallows.about, hallows.resolved, fun hne => by simp [howned] at hne, hrenders,
      ?_, fun _ => htaken⟩
    rintro (hne | hrest)
    · simp [howned] at hne
    · exact hkept hrest

/-- The news under their own topic. -/
theorem allowed_topic_rendered_news :
    rides.decide .subscribe "/news" { issuer := some "passenger", subject := some "1" } =
        .allow "news" ∧
      ∃ found token, rides.registry.lookup "/news" = some found ∧
        rides.ownership.Renders found .passenger token "/news" := by
  have hallow : rides.decide .subscribe "/news" { issuer := some "passenger", subject := some "1" } =
      .allow "news" := by
    decide +kernel
  obtain ⟨found, _, _, audience, token, rendered, hfound, -, hissuer, -, haudience, -, hrenders,
    hkept, -⟩ := allowed_topic_rendered hallow
  cases hissuer
  have hpassenger : rides.audienceOf "passenger" = some .passenger := by decide +kernel
  obtain rfl : audience = .passenger := Option.some.inj (haudience.symm.trans hpassenger)
  have hnot : ¬rides.registry.Carries "/news" := by
    show ¬"snapp".toList <+: "/news".toList
    decide
  obtain rfl : "/news" = rendered := hkept (Or.inr (Or.inr hnot))
  exact ⟨hallow, found, token, hfound, hrenders⟩

/-- The news are also allowed under a topic that begins with the company, which the template renders
for nobody. -/
theorem news_allowed_but_not_rendered :
    ({ type := "news", template := "/news", accesses := TextMap.ofList [("passenger", .subscribe)] } :
        TopicDefinition).compile = .ok news ∧
      rides.decide .subscribe "snapp/news" { issuer := some "passenger", subject := some "1" } =
          .allow "news" ∧
      ¬∃ found audience token, rides.registry.lookup "snapp/news" = some found ∧
        rides.audienceOf "passenger" = some audience ∧
        rides.ownership.Renders found audience token "snapp/news" := by
  refine ⟨by decide +kernel, by decide +kernel, ?_⟩
  rintro ⟨found, audience, token, hfound, -, hrenders⟩
  have hmatch : (rides.registry.lookup "snapp/news").map TopicMatch.pattern = some news := by
    decide +kernel
  rw [hfound] at hmatch
  have hpattern : found.pattern = news := Option.some.inj hmatch
  have hrendered : Template.renderParts? (rides.ownership.ownFields found audience token)
      news.template.parts = some "/news" := by
    rfl
  rw [Ownership.Renders, hpattern, hrendered] at hrenders
  exact absurd hrenders (by decide)

end TopicGate.Policy
