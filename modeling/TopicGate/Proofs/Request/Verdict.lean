import TopicGate.Proofs.Request.Allowed

/-!
# Verdicts

A decision is what the public checks of a policy give one after the other: the allow-list, the two
claims, the type of the topic, the audience of the issuer, the access on the pattern of that type,
and ownership as it is decided for anybody who asks.  The decision itself looks the topic up once and
goes on with the pattern it holds; the checks start from the topic each time.

## Main definitions
* `Policy.Refuses`: why a caller is refused on the topics of a pattern.
* `Policy.Verdict`: the outcome of the checks, one rule for each outcome.

## Main statements
* `refuses_iff`: a refusal is the same whether or not the topic is looked up again.
* `exists_verdict`: the checks never leave a request undecided.
* `decide_eq_iff_verdict`: a decision is the outcome of the checks.
-/

namespace TopicGate

@[simp] theorem AllowedAccess.permits_eq (allowed : AllowedAccess) (requested : AccessType) :
    allowed.permits requested = decide (requested ∈ allowed.types) :=
  List.contains_eq_mem requested allowed.types

namespace Policy

variable {policy : Policy} {requested : AccessType} {topic issuer subject type : String}
  {claims : Claims} {decision : Decision}

/-! ## §1 The checks -/

/-- Why a caller is refused on a topic of a pattern. -/
inductive Refuses (policy : Policy) (pattern : TopicPattern) (requested : AccessType)
    (topic issuer subject : String) : Prop where
  /-- The issuer belongs to nobody. -/
  | noAudience (h : policy.audienceOf issuer = none)
  /-- The audience may not do what is requested on topics of the pattern. -/
  | noAccess {audience : Audience} (haudience : policy.audienceOf issuer = some audience)
      (haccess : pattern.hasAccess audience requested = false)
  /-- The pattern speaks of who is asking, and that is somebody else. -/
  | notOwn {placeholder : Placeholder} (hmem : placeholder ∈ pattern.template.placeholders)
      (hplaceholder : placeholder = .audience ∨ placeholder = .peer ∨ placeholder = .identityToken)
      (howns : policy.owns topic issuer subject = false)

/-- The outcome of the checks: the first one that fails is the reason of the denial. -/
inductive Verdict (policy : Policy) (requested : AccessType) (topic : String) (claims : Claims) :
    Decision → Prop where
  /-- The access type is not served at all. -/
  | invalidAccessType (hserved : requested ∉ policy.allowed.types) :
      Verdict policy requested topic claims (.deny (.invalidAccessType requested))
  | issuerMissing (hserved : requested ∈ policy.allowed.types) (hissuer : claims.issuer = none) :
      Verdict policy requested topic claims (.deny .issuerMissing)
  | subjectMissing {issuer : String} (hserved : requested ∈ policy.allowed.types)
      (hissuer : claims.issuer = some issuer) (hsubject : claims.subject = none) :
      Verdict policy requested topic claims (.deny .subjectMissing)
  /-- The topic has no type. -/
  | topicNotRecognized {issuer subject : String} (hserved : requested ∈ policy.allowed.types)
      (hissuer : claims.issuer = some issuer) (hsubject : claims.subject = some subject)
      (htype : policy.registry.classify topic = none) :
      Verdict policy requested topic claims (.deny (.topicNotRecognized topic))
  /-- The caller is refused on the pattern that the type of the topic names. -/
  | topicNotAllowed {issuer subject type : String} {pattern : TopicPattern}
      (hserved : requested ∈ policy.allowed.types)
      (hissuer : claims.issuer = some issuer) (hsubject : claims.subject = some subject)
      (htype : policy.registry.classify topic = some type)
      (hpattern : policy.registry.get? type = some pattern)
      (hrefuses : policy.Refuses pattern requested topic issuer subject) :
      Verdict policy requested topic claims
        (.deny (.topicNotAllowed issuer subject requested topic type))
  /-- Nothing was found against the request. -/
  | allow {issuer subject type : String} {pattern : TopicPattern}
      (hserved : requested ∈ policy.allowed.types)
      (hissuer : claims.issuer = some issuer) (hsubject : claims.subject = some subject)
      (htype : policy.registry.classify topic = some type)
      (hpattern : policy.registry.get? type = some pattern)
      (hrefuses : ¬policy.Refuses pattern requested topic issuer subject) :
      Verdict policy requested topic claims (.allow type)

/-! ## §2 Refusals -/

theorem requiresOwnership_eq_true_iff {pattern : TopicPattern} :
    pattern.requiresOwnership = true ↔ ∃ placeholder ∈ pattern.template.placeholders,
      placeholder = .audience ∨ placeholder = .peer ∨ placeholder = .identityToken := by
  have hscoped : ∀ placeholder : Placeholder, placeholder.isIdentityScoped = true ↔
      placeholder = .audience ∨ placeholder = .peer ∨ placeholder = .identityToken := by
    intro placeholder
    cases placeholder <;> simp [Placeholder.isIdentityScoped]
  show pattern.template.placeholders.any Placeholder.isIdentityScoped = true ↔ _
  simp only [List.any_eq_true, hscoped]

/-- Looked up again, a topic is found by the pattern that was found before. -/
theorem owns_eq_ownsMatch {found : TopicMatch} {audience : Audience}
    (hfound : policy.registry.lookup topic = some found)
    (haudience : policy.audienceOf issuer = some audience) :
    policy.owns topic issuer subject = policy.ownership.ownsMatch found topic audience subject := by
  have howns : policy.owns topic issuer subject =
      policy.ownership.owns topic audience subject := by
    rw [owns, haudience]
  have hlookup : policy.ownership.registry.lookup topic = some found := hfound
  rw [howns, Ownership.owns, hlookup]

/-- A refusal is the same whether the topic is looked up again or not: the caller is of no audience,
or of one that is not permitted what it asks for. -/
theorem refuses_iff {found : TopicMatch} (hfound : policy.registry.lookup topic = some found) :
    policy.Refuses found.pattern requested topic issuer subject ↔
      ∀ audience, policy.audienceOf issuer = some audience →
        policy.permits found topic audience subject requested = false := by
  constructor
  · intro hrefuses audience haudience
    rw [← Bool.not_eq_true, permits_eq_true_iff]
    rintro ⟨haccess, howned⟩
    -- Whatever the reason of the refusal, a permission contradicts it.
    cases hrefuses with
    | noAudience hnone => simp [haudience] at hnone
    | noAccess haudience' haccess' =>
      obtain rfl := Option.some.inj (haudience.symm.trans haudience')
      simp [haccess] at haccess'
    | notOwn hmem hplaceholder howns =>
      have hown := howned (requiresOwnership_eq_true_iff.mpr ⟨_, hmem, hplaceholder⟩)
      rw [owns_eq_ownsMatch hfound haudience, hown] at howns
      cases howns
  · intro hpermits
    cases haudience : policy.audienceOf issuer with
    | none => exact .noAudience haudience
    | some audience =>
      -- Permission fails on the access, or else on a topic that is not the caller's own.
      have hpermits := hpermits audience haudience
      rw [← Bool.not_eq_true, permits_eq_true_iff, not_and_or, Bool.not_eq_true,
        Classical.not_imp, Bool.not_eq_true, requiresOwnership_eq_true_iff] at hpermits
      rcases hpermits with haccess | ⟨⟨placeholder, hmem, hplaceholder⟩, howned⟩
      · exact .noAccess haudience haccess
      · apply Refuses.notOwn hmem hplaceholder
        rw [owns_eq_ownsMatch hfound haudience, howned]

/-! ## §3 Decisions -/

/-- The type of a topic names the pattern that the topic is found by. -/
theorem exists_lookup_of_type {pattern : TopicPattern}
    (htype : policy.registry.classify topic = some type)
    (hpattern : policy.registry.get? type = some pattern) :
    ∃ found, policy.registry.lookup topic = some found ∧ found.pattern = pattern ∧
      pattern.type = type := by
  obtain ⟨hmem, rfl⟩ := Registry.get?_eq_some_iff.mp hpattern
  obtain ⟨found, hfound, rfl⟩ := Registry.exists_lookup_of_classify hmem htype
  exact ⟨found, hfound, rfl, rfl⟩

theorem decide_eq_of_verdict (h : policy.Verdict requested topic claims decision) :
    policy.decide requested topic claims = decision := by
  -- The checks before the one that decides have passed.
  cases h with
  | invalidAccessType hserved => simp [decide, hserved]
  | issuerMissing hserved hissuer => simp [decide, hserved, hissuer]
  | subjectMissing hserved hissuer hsubject => simp [decide, hserved, hissuer, hsubject]
  | topicNotRecognized hserved hissuer hsubject htype =>
    rw [Registry.classify_eq_map_lookup, Option.map_eq_none_iff] at htype
    simp [decide, hserved, hissuer, hsubject, htype]
  | topicNotAllowed hserved hissuer hsubject htype hpattern hrefuses =>
    obtain ⟨found, hfound, rfl, rfl⟩ := exists_lookup_of_type htype hpattern
    have hpermits := (refuses_iff hfound).mp hrefuses
    simp only [decide, AllowedAccess.permits_eq, hserved, hissuer, hsubject, hfound]
    cases haudience : policy.audienceOf _ with
    | none => rfl
    | some audience =>
      simp [hpermits audience haudience]
  | allow hserved hissuer hsubject htype hpattern hrefuses =>
    obtain ⟨found, hfound, rfl, rfl⟩ := exists_lookup_of_type htype hpattern
    simp only [refuses_iff hfound, not_forall, Bool.not_eq_false] at hrefuses
    obtain ⟨audience, haudience, hpermits⟩ := hrefuses
    obtain ⟨haccess, howned⟩ := permits_eq_true_iff.mp hpermits
    have hserved : policy.allowed.permits requested = true := by simpa using hserved
    apply decide_eq_allow_iff.mpr
    exact ⟨found, _, _, audience,
      ⟨hserved, hissuer, hsubject, hfound, haudience, haccess, howned⟩, rfl⟩

/-- The checks never leave a request undecided. -/
theorem exists_verdict (policy : Policy) (requested : AccessType) (topic : String)
    (claims : Claims) : ∃ decision, policy.Verdict requested topic claims decision := by
  by_cases hserved : requested ∈ policy.allowed.types
  case neg => exact ⟨_, .invalidAccessType hserved⟩
  cases hissuer : claims.issuer with
  | none => exact ⟨_, .issuerMissing hserved hissuer⟩
  | some issuer =>
    cases hsubject : claims.subject with
    | none => exact ⟨_, .subjectMissing hserved hissuer hsubject⟩
    | some subject =>
      cases hfound : policy.registry.lookup topic with
      | none =>
        have htype : policy.registry.classify topic = none := by
          rw [Registry.classify_eq_map_lookup, hfound, Option.map_none]
        exact ⟨_, .topicNotRecognized hserved hissuer hsubject htype⟩
      | some found =>
        -- The pattern that is found is the one that its type names.
        have htype : policy.registry.classify topic = some found.pattern.type := by
          rw [Registry.classify_eq_map_lookup, hfound, Option.map_some]
        have hpattern := Registry.get?_of_lookup hfound
        by_cases hrefuses : policy.Refuses found.pattern requested topic issuer subject
        · exact ⟨_, .topicNotAllowed hserved hissuer hsubject htype hpattern hrefuses⟩
        · exact ⟨_, .allow hserved hissuer hsubject htype hpattern hrefuses⟩

/-- **A decision is the outcome of the checks.**  Every request is decided by the first check that
fails, and allowed if none does. -/
theorem decide_eq_iff_verdict :
    policy.decide requested topic claims = decision ↔
      policy.Verdict requested topic claims decision := by
  constructor
  · rintro rfl
    obtain ⟨decision, hverdict⟩ := exists_verdict policy requested topic claims
    rwa [decide_eq_of_verdict hverdict]
  · exact decide_eq_of_verdict

end Policy

end TopicGate
