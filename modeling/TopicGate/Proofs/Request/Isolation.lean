import TopicGate.Proofs.Request.Allowed

/-!
# Isolation of tenants

Where every template begins with the company and a level separator, the first level of a topic names
its tenant.  A topic is then recognised by two tenants only if the company of one of them reaches
over several levels, and without separators in the companies no topic is allowed by both.

## Main statements
* `Registry.heads_of_lookup`: a recognised topic begins with the company and a separator.
* `Policy.tenants_isolated`: no topic belongs to two tenants.
-/

namespace TopicGate

/-! ## §1 The tenant in the first level -/

/-- The template begins with the company, and the text behind it with a level separator. -/
def Template.IsTenantScoped (template : Template) : Prop :=
  ∃ text parts, template.parts = .field .company :: .literal text :: parts ∧
    ['/'] <+: text.toList

/-- A company stands in the first levels of a text, up to a separator. -/
def Heads (company : String) (text : List Char) : Prop := company.toList ++ ['/'] <+: text

/-- What a scoped template accepts behind the company begins with a separator. -/
theorem Template.IsTenantScoped.separator_of_isCut {template : Template} {company text : String}
    {cut : Cut} (h : template.IsTenantScoped) (hcut : template.IsCut company text cut) :
    ['/'] <+: text.toList := by
  obtain ⟨literal, parts, hparts, hliteral⟩ := h
  rw [Template.IsCut, hparts] at hcut
  obtain ⟨piece, pieces, rest, -, htext, htakes, hrest⟩ := isPartsCut_cons_iff.mp hcut
  obtain ⟨first, others, behind, -, hbehind, hfirst, -⟩ := isPartsCut_cons_iff.mp hrest
  -- The company was taken off before, so the text begins with the literal.
  obtain rfl : piece = [] := htakes
  obtain rfl : first = literal.toList := hfirst
  rw [htext, hbehind, List.nil_append]
  exact hliteral.trans (List.prefix_append _ _)

/-- A recognised topic of a tenant with scoped templates begins with the company and a separator. -/
theorem Registry.heads_of_lookup {registry : Registry} {topic : String} {found : TopicMatch}
    (hscoped : ∀ pattern ∈ registry.topics, pattern.template.IsTenantScoped)
    (h : registry.lookup topic = some found) : Heads registry.company topic.toList := by
  obtain ⟨hpattern, hcarried, hcaptures⟩ := lookup_eq_some h
  obtain ⟨cut, hcut, -⟩ := TopicPattern.captures?_eq_some_iff.mp hcaptures
  have hseparator := (hscoped _ hpattern).separator_of_isCut hcut.isCut
  have hrequires : found.pattern.requiresTenantPrefix = true := by
    obtain ⟨literal, parts, hparts, -⟩ := hscoped _ hpattern
    exact Template.startsWithCompany_eq_true_iff.mpr ⟨_, hparts⟩
  rcases registry.strip_cases topic with ⟨-, rest, rfl, hstrip⟩ | ⟨hnot, -⟩
  · rw [hstrip] at hseparator
    rw [Heads, String.toList_append]
    exact (List.prefix_append_right_inj _).mpr hseparator
  · exact absurd (hcarried hrequires) hnot

/-- Of two companies that head one text, one heads the other or they are the same. -/
theorem Heads.eq_or_heads {company company' : String} {text : List Char}
    (h : Heads company text) (h' : Heads company' text) :
    company = company' ∨ Heads company company'.toList ∨ Heads company' company.toList := by
  rcases List.prefix_or_prefix_of_prefix h h' with hprefix | hprefix
  · rcases List.prefix_concat_iff.mp hprefix with heq | hheads
    · exact Or.inl (String.toList_inj.mp (List.append_inj_left' heq rfl))
    · exact Or.inr (Or.inl hheads)
  · rcases List.prefix_concat_iff.mp hprefix with heq | hheads
    · exact Or.inl (String.toList_inj.mp (List.append_inj_left' heq rfl).symm)
    · exact Or.inr (Or.inr hheads)

theorem Heads.separator_mem {company : String} {text : List Char} (h : Heads company text) :
    '/' ∈ text :=
  h.subset (List.mem_append_right _ (List.mem_singleton_self _))

/-! ## §2 Topics of two tenants -/

theorem Decision.isAllowed_eq_true_iff {decision : Decision} :
    decision.isAllowed = true ↔ ∃ type, decision = .allow type := by
  cases decision with
  | allow type => exact ⟨fun _ => ⟨type, rfl⟩, fun _ => rfl⟩
  | deny reason =>
    constructor
    · intro h
      cases h
    · rintro ⟨type, h⟩
      cases h

namespace Policy

/-- An allowed topic is recognised. -/
theorem isSome_lookup_of_isAllowed {policy : Policy} {requested : AccessType} {topic : String}
    {claims : Claims} (h : (policy.decide requested topic claims).isAllowed = true) :
    (policy.registry.lookup topic).isSome = true := by
  obtain ⟨type, htype⟩ := Decision.isAllowed_eq_true_iff.mp h
  obtain ⟨found, _, _, _, hallows, -⟩ := decide_eq_allow_iff.mp htype
  exact Option.isSome_iff_exists.mpr ⟨found, hallows.recognized⟩

/-- **No topic belongs to two tenants.**  Where the templates of two tenants begin with the company
and a separator, a topic that both recognise shows that the company of one heads the company of the
other; so companies without separators have no topic on which both allow a request, whoever asks. -/
theorem tenants_isolated {tenant other : Registry} (hcompany : tenant.company ≠ other.company)
    (hscoped : ∀ pattern ∈ tenant.topics, pattern.template.IsTenantScoped)
    (hscoped' : ∀ pattern ∈ other.topics, pattern.template.IsTenantScoped) :
    (∀ topic, (tenant.lookup topic).isSome = true → (other.lookup topic).isSome = true →
      Heads tenant.company other.company.toList ∨ Heads other.company tenant.company.toList) ∧
    ('/' ∉ tenant.company.toList → '/' ∉ other.company.toList →
      ∀ policy policy' : Policy, policy.registry = tenant → policy'.registry = other →
      ∀ topic requested requested' claims claims',
        ¬((policy.decide requested topic claims).isAllowed = true ∧
          (policy'.decide requested' topic claims').isAllowed = true)) := by
  have hheads : ∀ topic, (tenant.lookup topic).isSome = true →
      (other.lookup topic).isSome = true →
      Heads tenant.company other.company.toList ∨
        Heads other.company tenant.company.toList := by
    intro topic h h'
    obtain ⟨found, hfound⟩ := Option.isSome_iff_exists.mp h
    obtain ⟨found', hfound'⟩ := Option.isSome_iff_exists.mp h'
    exact ((Registry.heads_of_lookup hscoped hfound).eq_or_heads
      (Registry.heads_of_lookup hscoped' hfound')).resolve_left hcompany
  refine ⟨hheads, ?_⟩
  rintro hseparator hseparator' policy policy' rfl rfl topic requested requested' claims claims'
    ⟨h, h'⟩
  -- A company that heads another one brings its separator along.
  rcases hheads topic (isSome_lookup_of_isAllowed h) (isSome_lookup_of_isAllowed h') with
    hheads | hheads
  · exact hseparator' hheads.separator_mem
  · exact hseparator hheads.separator_mem

/-- A tenant with chats only. -/
def chats (company : String) : Policy :=
  { rides with registry := { company, topics := [chat], distinct := by decide } }

/-- A driver's chat at one tenant is allowed to nobody at another one, although the company of the
other begins the topic as well. -/
theorem tenants_isolated_chats :
    (chats "snapp").registry.company ≠ (chats "snappfood").registry.company ∧
      (∀ company, ∀ pattern ∈ (chats company).registry.topics, pattern.template.IsTenantScoped) ∧
      ((chats "snappfood").decide .publish "snappfood/chat/driver/1e5xX4gkEjmPKOo/1"
        { issuer := some "driver", subject := some "1e5xX4gkEjmPKOo" }).isAllowed = true ∧
      ∀ requested claims, ¬((chats "snapp").decide requested
        "snappfood/chat/driver/1e5xX4gkEjmPKOo/1" claims).isAllowed = true := by
  have hcompany : (chats "snapp").registry.company ≠ (chats "snappfood").registry.company := by
    decide
  have hscoped : ∀ company, ∀ pattern ∈ (chats company).registry.topics,
      pattern.template.IsTenantScoped := by
    intro company pattern hpattern
    rw [List.mem_singleton.mp hpattern]
    exact ⟨"/chat/", _, rfl, by decide⟩
  have hallowed : ((chats "snappfood").decide .publish "snappfood/chat/driver/1e5xX4gkEjmPKOo/1"
      { issuer := some "driver", subject := some "1e5xX4gkEjmPKOo" }).isAllowed = true := by
    decide +kernel
  refine ⟨hcompany, hscoped, hallowed, ?_⟩
  intro requested claims h
  have hisolated := tenants_isolated hcompany (hscoped "snapp") (hscoped "snappfood")
  exact hisolated.2 (by decide) (by decide) _ _ rfl rfl _ _ _ _ _ ⟨h, hallowed⟩

end Policy

end TopicGate
