import TopicGate.Proofs.Identity.Symbols
import TopicGate.Proofs.Topic.Ownership
import TopicGate.Proofs.Topic.Registry

/-!
# Renderings are recognised

What a template renders from values of the right kind, its matcher accepts.  A topic rendered for a
tenant is therefore found in the tenant's registry: by the pattern that rendered it, or by one that
is declared before it.

## Main statements
* `Template.exists_isCut_of_fits`: a rendering can be cut.
* `Ownership.isToken_of_identityToken`: every identity token is of the right kind.
* `Registry.rendered_topic_recognized`: a rendered topic is recognised.
-/

namespace TopicGate

/-! ## §1 Values of the right kind -/

/-- Text that may stand for an identity: one or more letters and digits. -/
def IsToken (text : String) : Prop := text ≠ "" ∧ ∀ c ∈ text.toList, IsTokenSymbol c

/-- Text that may stand for a segment: it is not empty and stays within its level. -/
def IsSegmentValue (text : String) : Prop := text ≠ "" ∧ '/' ∉ text.toList

/-- Fields from which every template with the given segments can be rendered under a company. -/
structure TopicFields.Fits (fields : TopicFields) (company : String) (names : List String) :
    Prop where
  company_eq : fields.company = company
  audience : fields.audience.isSome = true
  peer : fields.peer.isSome = true
  token : ∃ token, fields.identityToken = some token ∧ IsToken token
  segments : ∀ name ∈ names, ∃ value, fields.segments.get? name = some value ∧ IsSegmentValue value

theorem Part.mem_segmentNames_iff {parts : List Part} {name : String} :
    name ∈ Part.segmentNames parts ↔ Part.field (.segment name) ∈ parts := by
  simp only [Part.segmentNames, List.mem_filterMap]
  constructor
  · rintro ⟨placeholder, ⟨part, hpart, hplaceholder⟩, hname⟩
    cases part with
    | literal text => cases hplaceholder
    | field other =>
      cases hplaceholder
      cases placeholder <;> cases hname
      exact hpart
  · intro hpart
    exact ⟨_, ⟨_, hpart, rfl⟩, rfl⟩

theorem Part.segmentNames_subset {parts others : List Part} (h : parts ⊆ others) :
    Part.segmentNames parts ⊆ Part.segmentNames others := fun _ hname =>
  mem_segmentNames_iff.mpr (h (mem_segmentNames_iff.mp hname))

/-! ## §2 Renderings can be cut -/

variable {company : String} {fields : TopicFields} {names : List String}

theorem Audience.name_takes (a : Audience) :
    a.name.toList = "driver".toList ∨ a.name.toList = "passenger".toList := by
  cases a
  · exact Or.inl rfl
  · exact Or.inr rfl

/-- A part is rendered as a piece that it may stand for. -/
theorem Part.exists_render?_takes (h : fields.Fits company names) {part : Part}
    (hnames : ∀ name, part = .field (.segment name) → name ∈ names) :
    ∃ text, part.render? fields = some text ∧ part.Takes company false text.toList := by
  cases part with
  | literal text => exact ⟨text, rfl, rfl⟩
  | field placeholder =>
    cases placeholder with
    | company => exact ⟨fields.company, rfl, congrArg String.toList h.company_eq⟩
    | audience =>
      obtain ⟨a, ha⟩ := Option.isSome_iff_exists.mp h.audience
      refine ⟨a.name, ?_, a.name_takes⟩
      rw [Part.render?, TopicFields.get?, ha, Option.map_some]
    | peer =>
      obtain ⟨a, ha⟩ := Option.isSome_iff_exists.mp h.peer
      refine ⟨a.name, ?_, a.name_takes⟩
      rw [Part.render?, TopicFields.get?, ha, Option.map_some]
    | identityToken =>
      obtain ⟨token, htoken, hne, hsymbols⟩ := h.token
      exact ⟨token, htoken, fun hnil => hne (String.toList_eq_nil_iff.mp hnil), hsymbols⟩
    | segment name =>
      obtain ⟨value, hvalue, hne, hslash⟩ := h.segments name (hnames name rfl)
      refine ⟨value, hvalue, fun hnil => hne (String.toList_eq_nil_iff.mp hnil), ?_⟩
      rintro c hc rfl
      exact hslash hc

/-- Parts behind the first are rendered as a text that can be cut, with each value as the piece of its
segment. -/
theorem exists_isPartsCut_of_fits (h : fields.Fits company names) {parts : List Part}
    (hnames : Part.segmentNames parts ⊆ names) :
    ∃ text cut, Template.renderParts? fields parts = some text ∧
      IsPartsCut company false parts text.toList cut ∧
      ∀ name piece, (Part.field (.segment name), piece) ∈ parts.zip cut →
        fields.segments.get? name = some (String.ofList piece) := by
  induction parts with
  | nil => exact ⟨"", [], rfl, .nil, by simp⟩
  | cons part parts ih =>
    obtain ⟨first, hfirst, htakes⟩ : ∃ text, part.render? fields = some text ∧
        part.Takes company false text.toList := by
      apply Part.exists_render?_takes h
      rintro name rfl
      exact hnames (Part.mem_segmentNames_iff.mpr List.mem_cons_self)
    obtain ⟨rest, cut, hrest, hcut, hvalues⟩ :=
      ih (List.Subset.trans (Part.segmentNames_subset (List.subset_cons_self _ _)) hnames)
    refine ⟨first ++ rest, first.toList :: cut, ?_, ?_, ?_⟩
    · exact renderParts?_cons_eq_some_iff.mpr ⟨first, rest, hfirst, hrest, rfl⟩
    · rw [String.toList_append]
      exact .cons htakes hcut
    · intro name piece hmem
      rw [List.zip_cons_cons, List.mem_cons, Prod.mk.injEq] at hmem
      rcases hmem with ⟨rfl, rfl⟩ | hmem
      · rw [String.ofList_toList]
        exact hfirst
      · exact hvalues name piece hmem

/-- A rendering can be cut once a company that leads the template is taken off, with each value as the
piece of its segment. -/
theorem Template.exists_isCut_of_fits {template : Template}
    (h : fields.Fits company template.segmentNames) :
    ∃ text cut, Template.renderParts? fields template.parts =
        some (if template.startsWithCompany then company ++ text else text) ∧
      template.IsCut company text cut ∧
      ∀ name piece, (Part.field (.segment name), piece) ∈ template.parts.zip cut →
        fields.segments.get? name = some (String.ofList piece) := by
  obtain ⟨text, cut, hrender, hcut, hvalues⟩ :=
    exists_isPartsCut_of_fits h (Part.segmentNames_subset template.body_subset)
  refine ⟨text, _, ?_, Template.isCut_iff.mpr ⟨cut, rfl, hcut⟩, ?_⟩
  · rw [template.renderParts?_parts, hrender, h.company_eq, Option.map_some]
  · intro name piece hmem
    exact hvalues name piece (Template.mem_zip_body_of_ne (by simp) hmem)

/-! ## §3 Identity tokens are of the right kind -/

/-- Whatever the salts, the least lengths and the subject, an identity token is one or more letters
and digits. -/
theorem Ownership.isToken_of_identityToken {o : Ownership} {params : PerAudience CodecParams}
    (hcodec : o.codec = IdentityCodec.ofParams params) {kind : HashKind} {subject token : String}
    {audience : Audience} (h : o.identityToken kind subject audience = .ok token) :
    IsToken token := by
  cases kind with
  | identity =>
    obtain ⟨rfl, id, hid⟩ := identityToken_identity_eq_ok_iff.mp h
    rw [hcodec] at hid
    obtain ⟨hne, hsymbols⟩ := IdentityCodec.encode_symbols (IdentityCodec.encode_of_decode hid)
    exact ⟨hne, fun c hc => isTokenChar_eq_true_iff.mp (hsymbols c hc)⟩
  | secondaryHash =>
    obtain ⟨id, -, rfl⟩ := identityToken_secondaryHash_eq_ok_iff.mp h
    refine ⟨secondaryHash_ne_empty id, fun c hc => ?_⟩
    exact isTokenChar_eq_true_iff.mp (isAlphanum_of_mem_secondaryHash hc)

/-! ## §4 Rendered topics are recognised -/

namespace Registry

/-- A topic that begins with the company is found for a pattern or for one declared before it, and
the pattern itself accepts what follows the company. -/
structure Recognizes (registry : Registry) (pattern : TopicPattern) (topic : String) : Prop where
  found : ∃ before behind found, registry.topics = before ++ pattern :: behind ∧
    registry.lookup topic = some found ∧ (found.pattern ∈ before ∨ found.pattern = pattern)
  accepted : ∃ rest, topic = registry.company ++ rest ∧
    pattern.accepts registry.company rest = true

variable {registry : Registry} {pattern : TopicPattern}

/-- Behind the company, whatever a pattern accepts is recognised. -/
theorem recognizes_of_isCut (hpattern : pattern ∈ registry.topics) {rest : String} {cut : Cut}
    (hcut : pattern.template.IsCut registry.company rest cut) :
    registry.Recognizes pattern (registry.company ++ rest) := by
  have haccepts : pattern.accepts registry.company rest = true :=
    Template.isSome_cut?_steps_iff.mpr ⟨cut, hcut⟩
  have hmatch : (registry.match? (registry.company ++ rest) pattern).isSome = true := by
    rw [isSome_match?_eq, strip_company_append, haccepts]
    rfl
  obtain ⟨before, behind, htopics⟩ := List.append_of_mem hpattern
  obtain ⟨found, hfound, hplace⟩ := exists_lookup_of_match? htopics hmatch
  exact ⟨⟨before, behind, found, htopics, hfound, hplace⟩, ⟨rest, rfl, haccepts⟩⟩

/-- A topic rendered from values of the right kind is recognised. -/
theorem recognizes_render (hpattern : pattern ∈ registry.topics)
    (hleads : pattern.requiresTenantPrefix = true) {fields : TopicFields}
    (hfits : fields.Fits registry.company pattern.template.segmentNames) :
    registry.Recognizes pattern (pattern.render fields) := by
  obtain ⟨rest, cut, hrender, hcut, -⟩ := Template.exists_isCut_of_fits hfits
  have hstarts : pattern.template.startsWithCompany = true := hleads
  rw [if_pos hstarts] at hrender
  rw [TopicPattern.render, Template.render, hrender, Option.getD_some]
  exact recognizes_of_isCut hpattern hcut

/-- **Renderer and registry agree.**  A topic that a pattern renders behind the company, from any
audience and peer, a token of letters and digits, and values that stay within their levels, is found
by the pattern or by one declared before it; and so is one with the identity token of any subject,
of either kind, under any salts. -/
theorem rendered_topic_recognized (hpattern : pattern ∈ registry.topics)
    (hleads : pattern.requiresTenantPrefix = true) {fields : TopicFields}
    (hcompany : fields.company = registry.company) (haudience : fields.audience.isSome = true)
    (hpeer : fields.peer.isSome = true)
    (hsegments : ∀ name ∈ pattern.template.segmentNames,
      ∃ value, fields.segments.get? name = some value ∧ IsSegmentValue value) :
    (∀ token, fields.identityToken = some token → IsToken token →
      registry.Recognizes pattern (pattern.render fields)) ∧
    ∀ (o : Ownership) (params : PerAudience CodecParams) (kind : HashKind) (subject : String)
      (audience : Audience) (token : String), o.codec = IdentityCodec.ofParams params →
      o.identityToken kind subject audience = .ok token → fields.identityToken = some token →
      registry.Recognizes pattern (pattern.render fields) := by
  have hrecognizes : ∀ token, fields.identityToken = some token → IsToken token →
      registry.Recognizes pattern (pattern.render fields) := by
    intro token htoken hkind
    apply recognizes_render hpattern hleads
    exact ⟨hcompany, haudience, hpeer, ⟨token, htoken, hkind⟩, hsegments⟩
  refine ⟨hrecognizes, ?_⟩
  intro o params kind subject audience token hcodec hidentity htoken
  exact hrecognizes token htoken (Ownership.isToken_of_identityToken hcodec hidentity)

/-- The entry of a call at a node, for each caller. -/
def nodeCall : TopicPattern where
  type := "node_call"
  template :=
    { parts := [.field .company, .literal "/", .field .audience, .literal "/",
        .field .identityToken, .literal "/call/", .field (.segment "node")]
      distinct := by decide }
  hashKind := .identity
  accesses := ⟨some .publishSubscribe, none⟩

/-- A tenant with calls only. -/
def calls : Registry := { company := "snapp", topics := [nodeCall], distinct := by decide }

/-- The entry of the call of driver 42. -/
theorem rendered_topic_recognized_call :
    nodeCall ∈ calls.topics ∧ nodeCall.requiresTenantPrefix = true ∧
      (⟨calls, IdentityCodec.ofParams ⟨some ⟨"driver-salt", 15⟩, none⟩⟩ :
        Ownership).identityToken .identity "RpvyDXjl0jWr0k5" .driver = .ok "RpvyDXjl0jWr0k5" ∧
      calls.Recognizes nodeCall "snapp/driver/RpvyDXjl0jWr0k5/call/eu-1" := by
  let fields : TopicFields :=
    { company := "snapp", audience := some .driver, peer := some .passenger,
      identityToken := some "RpvyDXjl0jWr0k5", segments := TextMap.ofList [("node", "eu-1")] }
  have hidentity : (⟨calls, IdentityCodec.ofParams ⟨some ⟨"driver-salt", 15⟩, none⟩⟩ :
      Ownership).identityToken .identity "RpvyDXjl0jWr0k5" .driver = .ok "RpvyDXjl0jWr0k5" := by
    decide +kernel
  have hsegments : ∀ name ∈ nodeCall.template.segmentNames,
      ∃ value, fields.segments.get? name = some value ∧ IsSegmentValue value := by
    intro name hname
    rw [show nodeCall.template.segmentNames = ["node"] from rfl, List.mem_singleton] at hname
    subst hname
    exact ⟨"eu-1", rfl, by decide, by decide⟩
  have hrender : nodeCall.render fields = "snapp/driver/RpvyDXjl0jWr0k5/call/eu-1" := by
    decide +kernel
  refine ⟨List.mem_singleton_self _, rfl, hidentity, ?_⟩
  rw [← hrender]
  exact (rendered_topic_recognized (List.mem_singleton_self _) rfl rfl rfl rfl hsegments).2
    _ _ _ _ _ _ rfl hidentity rfl

end Registry

end TopicGate
