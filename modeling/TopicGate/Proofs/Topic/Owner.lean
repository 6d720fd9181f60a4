import TopicGate.Proofs.Topic.Levels
import TopicGate.Proofs.Topic.Recognition

/-!
# Owners and their topics

Ownership of a topic is decided from the segments that are captured in it, which need not be those
that it was rendered from.  An identity owns what is rendered for it wherever the levels of the
template are settled; in a level that is not, the captured segments can take up the owner's token.

## Main statements
* `exists_rendersAgain`: rendering, cutting and rendering again, in the slots of a template.
* `Ownership.owns_own_topic`: an identity owns its own topics.
* `Ownership.presence_not_owned`: a topic that its identity does not own.
-/

namespace TopicGate

/-! ## §1 The slots of a template -/

/-- The slots of a part under a tenant. -/
def Part.slots (company : String) : Part → List Slot
  | .literal text => text.toList.map .char
  | .field .company => company.toList.map .char
  | .field .audience | .field .peer => [.role]
  | .field .identityToken => [.token]
  | .field (.segment _) => [.segment]

/-- The slots of a template behind a company in front. -/
def Template.slots (template : Template) (company : String) : List Slot :=
  template.body.flatMap (Part.slots company)

/-! ## §2 Rendering again -/

variable {company : String} {fields : TopicFields} {names : List String} {segments : TextMap String}

/-- A part is rendered again as what it was, and a segment as the piece that was cut for it. -/
theorem Part.exists_rendersAgain {part : Part} {text : String} {piece : List Char}
    (hrender : part.render? fields = some text) (htakes : part.Takes company false text.toList)
    (hpiece : part.Takes company false piece)
    (hsegment : ∀ name, part = .field (.segment name) →
      segments.get? name = some (String.ofList piece)) :
    ∃ again, part.render? { fields with segments } = some again ∧
      RendersAgain (part.slots company) text.toList piece again.toList := by
  cases part with
  | literal literal =>
    obtain rfl : literal = text := Option.some.inj hrender
    obtain rfl := hpiece
    exact ⟨literal, rfl, .chars _⟩
  | field placeholder =>
    cases placeholder with
    | company =>
      refine ⟨text, hrender, ?_⟩
      obtain rfl : piece = company.toList := hpiece
      rw [htakes]
      exact .chars _
    | audience | peer =>
      refine ⟨text, hrender, ?_⟩
      show RendersAgain [.role] text.toList piece text.toList
      exact .single htakes hpiece
    | identityToken =>
      refine ⟨text, hrender, ?_⟩
      show RendersAgain [.token] text.toList piece text.toList
      exact .single htakes hpiece
    | segment name =>
      refine ⟨String.ofList piece, hsegment name rfl, ?_⟩
      rw [String.toList_ofList]
      show RendersAgain [.segment] text.toList piece piece
      exact .single htakes hpiece

/-- Parts behind the first are rendered, cut and rendered again slot by slot. -/
theorem exists_rendersAgain (h : fields.Fits company names) {parts : List Part}
    (hnames : Part.segmentNames parts ⊆ names) {text : List Char} {cut : Cut}
    (hcut : IsPartsCut company false parts text cut)
    (hsegments : ∀ name piece, (Part.field (.segment name), piece) ∈ parts.zip cut →
      segments.get? name = some (String.ofList piece)) :
    ∃ own again, Template.renderParts? fields parts = some own ∧
      Template.renderParts? { fields with segments } parts = some again ∧
      RendersAgain (parts.flatMap (Part.slots company)) own.toList text again.toList := by
  induction parts generalizing text cut with
  | nil =>
    cases hcut
    exact ⟨"", "", rfl, rfl, .nil⟩
  | cons part parts ih =>
    obtain ⟨piece, pieces, rest, rfl, rfl, hpiece, hrest⟩ := isPartsCut_cons_iff.mp hcut
    obtain ⟨first, hfirst, htakes⟩ : ∃ text, part.render? fields = some text ∧
        part.Takes company false text.toList := by
      apply Part.exists_render?_takes h
      rintro name rfl
      exact hnames (Part.mem_segmentNames_iff.mpr List.mem_cons_self)
    obtain ⟨firstAgain, hfirstAgain, hagain⟩ : ∃ again,
        part.render? { fields with segments } = some again ∧
          RendersAgain (part.slots company) first.toList piece again.toList := by
      apply Part.exists_rendersAgain hfirst htakes hpiece
      rintro name rfl
      exact hsegments name piece List.mem_cons_self
    obtain ⟨own, again, hown, hrenders, hothers⟩ := ih
      (List.Subset.trans (Part.segmentNames_subset (List.subset_cons_self _ _)) hnames) hrest
      fun name piece hmem => hsegments name piece (List.mem_cons_of_mem _ hmem)
    refine ⟨first ++ own, firstAgain ++ again, ?_, ?_, ?_⟩
    · exact renderParts?_cons_eq_some_iff.mpr ⟨first, own, hfirst, hown, rfl⟩
    · exact renderParts?_cons_eq_some_iff.mpr ⟨firstAgain, again, hfirstAgain, hrenders, rfl⟩
    · rw [String.toList_append, String.toList_append]
      exact hagain.append hothers

/-- A template with settled levels renders a text again from the segments that are captured in it. -/
theorem TopicPattern.renderParts?_of_captures? {pattern : TopicPattern}
    (h : fields.Fits company pattern.template.segmentNames)
    (hsettled : IsSettled (pattern.template.slots company)) {own : String}
    (hown : Template.renderParts? fields pattern.template.body = some own)
    (hcaptures : pattern.captures? company own = some segments) :
    Template.renderParts? { fields with segments } pattern.template.body = some own := by
  obtain ⟨cut, hcut, hsegments⟩ := captures?_eq_some_iff.mp hcaptures
  obtain ⟨pieces, rfl, hpieces⟩ := Template.isCut_iff.mp hcut.isCut
  have hnames := Part.segmentNames_subset pattern.template.body_subset
  obtain ⟨own', again, hown', hagain, hslots⟩ := exists_rendersAgain h hnames hpieces
    fun name piece hmem => (hsegments name (String.ofList piece)).mpr (by
      rw [String.toList_ofList]
      exact Template.mem_zip_of_body hmem)
  obtain rfl : own = own' := Option.some.inj (hown.symm.trans hown')
  rw [hagain, String.toList_inj.mp (hslots.eq_of_isSettled hsettled)]

/-! ## §3 Own topics -/

namespace Ownership

variable {o : Ownership} {pattern : TopicPattern} {audience : Audience}

/-- An identity has a token of either kind. -/
theorem exists_identityToken {params : PerAudience CodecParams}
    (hcodec : o.codec = IdentityCodec.ofParams params) {id : UInt64} {subject : String}
    (h : o.codec.encode id audience = .ok subject) (kind : HashKind) :
    ∃ token, o.identityToken kind subject audience = .ok token := by
  have hdecode : o.codec.decode subject audience = .ok id := by
    rw [hcodec] at h ⊢
    exact IdentityCodec.decode_of_encode h
  cases kind with
  | identity => exact ⟨subject, identityToken_identity_eq_ok_iff.mpr ⟨rfl, id, hdecode⟩⟩
  | secondaryHash =>
    exact ⟨secondaryHash id, identityToken_secondaryHash_eq_ok_iff.mpr ⟨id, hdecode, rfl⟩⟩

/-- What an identity's own topic is rendered from. -/
theorem fits_ownFields {params : PerAudience CodecParams}
    (hcodec : o.codec = IdentityCodec.ofParams params) {found : TopicMatch} {kind : HashKind}
    {subject token : String} (htoken : o.identityToken kind subject audience = .ok token)
    {names : List String} (hvalues : ∀ name ∈ names,
      ∃ value, found.segments.get? name = some value ∧ IsSegmentValue value) :
    (o.ownFields found audience token).Fits o.registry.company names where
  company_eq := rfl
  audience := rfl
  peer := rfl
  token := ⟨token, rfl, isToken_of_identityToken hcodec htoken⟩
  segments := hvalues

/-- **An identity owns its own topics.**  A topic that is rendered for an identity, from values that
stay within their levels, and that is found under the pattern that rendered it, is the identity's own
if the levels of the template are settled.  The topic must not be empty, and where the template does
not begin with the company, the registry must not take the company off the topic either. -/
theorem owns_own_topic {params : PerAudience CodecParams}
    (hcodec : o.codec = IdentityCodec.ofParams params)
    (haudience : (params.get? audience).isSome = true) (id : UInt64)
    (hpattern : pattern ∈ o.registry.topics) {values : TextMap String}
    (hvalues : ∀ name ∈ pattern.template.segmentNames,
      ∃ value, values.get? name = some value ∧ IsSegmentValue value)
    (hsettled : IsSettled (pattern.template.slots o.registry.company)) :
    ∃ subject token topic, o.codec.encode id audience = .ok subject ∧
      o.identityToken pattern.hashKind subject audience = .ok token ∧
      pattern.render (o.ownFields ⟨pattern, values⟩ audience token) = topic ∧
      (o.registry.classify topic = some pattern.type → topic ≠ "" →
        pattern.requiresTenantPrefix = true ∨ (o.registry.strip topic).1 = topic →
        o.owns topic audience subject = true) := by
  obtain ⟨subject, hsubject⟩ : ∃ subject, o.codec.encode id audience = .ok subject := by
    rw [hcodec]
    exact IdentityCodec.exists_encode id haudience
  obtain ⟨token, htoken⟩ := exists_identityToken hcodec hsubject pattern.hashKind
  refine ⟨subject, token, _, hsubject, htoken, rfl, ?_⟩
  generalize htopic : pattern.render (o.ownFields ⟨pattern, values⟩ audience token) = topic
  intro hclassify hne hfront
  have hrender := TopicPattern.renderParts?_of_render_eq htopic hne
  obtain ⟨found, hfound, rfl⟩ := Registry.exists_lookup_of_classify hpattern hclassify
  have hfits : (o.ownFields ⟨found.pattern, values⟩ audience token).Fits o.registry.company
      found.pattern.template.segmentNames := fits_ownFields hcodec htoken hvalues
  rw [Template.renderParts?_parts] at hrender
  obtain ⟨own, hown, htext⟩ := Option.map_eq_some_iff.mp hrender
  -- What the registry takes off the front is what was rendered in front of the body.
  have hstrip : (o.registry.strip topic).1 = own := by
    cases hstarts : found.pattern.template.startsWithCompany with
    | true =>
      rw [hstarts, if_pos rfl] at htext
      rw [← htext]
      exact congrArg Prod.fst (o.registry.strip_company_append own)
    | false =>
      rw [hstarts, if_neg Bool.false_ne_true] at htext
      have hleads : ¬found.pattern.requiresTenantPrefix = true := by
        rw [TopicPattern.requiresTenantPrefix, hstarts]
        exact Bool.false_ne_true
      rw [hfront.resolve_left hleads, htext]
  obtain ⟨-, -, hcaptures⟩ := Registry.lookup_eq_some hfound
  rw [hstrip] at hcaptures
  -- The body is rendered again from the captured segments, and the front from the same company.
  have hagain : o.Renders found audience token topic := by
    rw [Renders, Template.renderParts?_parts]
    have hbody := TopicPattern.renderParts?_of_captures? hfits hsettled hown hcaptures
    rw [← htext]
    exact Option.map_eq_some_iff.mpr ⟨own, hbody, rfl⟩
  rw [owns, hfound]
  exact ownsMatch_eq_true_iff.mpr ⟨hne, token, htoken, hagain⟩

/-- The salts of a tenant. -/
def salts : PerAudience CodecParams := ⟨some ⟨"driver-salt", 15⟩, some ⟨"passenger-salt", 15⟩⟩

/-- A tenant with topics of one pattern. -/
def servingOnly (pattern : TopicPattern) : Ownership where
  registry := { company := "snapp", topics := [pattern], distinct := List.nodup_singleton _ }
  codec := IdentityCodec.ofParams salts

/-- A visitor at a door of a room. -/
def visit : TopicPattern where
  type := "visit"
  template :=
    { parts := [.field .company, .literal "/", .field .identityToken, .literal "-",
        .field (.segment "room"), .literal ".", .field (.segment "door")]
      distinct := by decide }
  hashKind := .identity
  accesses := ⟨some .publish, none⟩

theorem isSettled_visit : IsSettled (visit.template.slots "snapp") := by
  have hlevels : (visit.template.slots "snapp").splitOn (.char '/') =
      [[], [.token, .char '-', .segment, .char '.', .segment]] := by
    decide
  rw [IsSettled, hlevels, List.forall_mem_cons, List.forall_mem_singleton]
  refine ⟨Or.inl List.not_mem_nil, Or.inr ?_⟩
  refine ⟨[.token, .char '-'], [.segment, .char '.', .segment], [], rfl, ?_, by decide, by decide, ?_⟩
  · exact ⟨by decide, Or.inr ⟨[.token], '-', [], rfl, by decide, by decide⟩⟩
  · exact ⟨by decide, Or.inl (by decide)⟩

/-- A door whose name contains the text between room and door is captured as part of the room, and the
visit is the visitor's own all the same. -/
theorem owns_own_topic_visit :
    (servingOnly visit).codec.encode 42 .driver = .ok "RpvyDXjl0jWr0k5" ∧
      visit ∈ (servingOnly visit).registry.topics ∧
      IsSettled (visit.template.slots (servingOnly visit).registry.company) ∧
      (servingOnly visit).owns "snapp/RpvyDXjl0jWr0k5-lobby.east.1" .driver "RpvyDXjl0jWr0k5" =
        true := by
  let values : TextMap String := TextMap.ofList [("room", "lobby"), ("door", "east.1")]
  have hvalues : ∀ name ∈ visit.template.segmentNames,
      ∃ value, values.get? name = some value ∧ IsSegmentValue value := by
    intro name hname
    rw [show visit.template.segmentNames = ["room", "door"] from rfl] at hname
    rcases List.mem_pair.mp hname with rfl | rfl
    · exact ⟨"lobby", rfl, by decide, by decide⟩
    · exact ⟨"east.1", rfl, by decide, by decide⟩
  have hcodec : (servingOnly visit).codec = IdentityCodec.ofParams salts := rfl
  have hdriver : (salts.get? .driver).isSome = true := rfl
  have hencode : (servingOnly visit).codec.encode 42 .driver = .ok "RpvyDXjl0jWr0k5" := by
    decide +kernel
  have hmem : visit ∈ (servingOnly visit).registry.topics := List.mem_singleton_self _
  obtain ⟨subject, token, topic, hsubject, htoken, htopic, howns⟩ :=
    owns_own_topic hcodec hdriver 42 hmem hvalues isSettled_visit
  obtain rfl : "RpvyDXjl0jWr0k5" = subject := Except.ok.inj (hencode.symm.trans hsubject)
  obtain rfl : token = "RpvyDXjl0jWr0k5" := (identityToken_identity_eq_ok_iff.mp htoken).1
  have hrender : visit.render ((servingOnly visit).ownFields ⟨visit, values⟩ .driver
      "RpvyDXjl0jWr0k5") = "snapp/RpvyDXjl0jWr0k5-lobby.east.1" := by
    decide +kernel
  obtain rfl : "snapp/RpvyDXjl0jWr0k5-lobby.east.1" = topic := hrender.symm.trans htopic
  exact ⟨hencode, hmem, isSettled_visit,
    howns (by decide +kernel) (by decide) (Or.inl rfl)⟩

/-- A device in a room, with the identity token between the two. -/
def presence : TopicPattern where
  type := "presence"
  template :=
    { parts := [.field .company, .literal "/", .field (.segment "room"), .literal "-",
        .field .identityToken, .literal "-", .field (.segment "device")]
      distinct := by decide }
  hashKind := .identity
  accesses := ⟨some .publish, none⟩

/-- The room that is captured takes up the owner's token, as the name of the device looks like a token
and a device; the topic is recognised, and is not its owner's. -/
theorem presence_not_owned :
    ({ type := "presence"
       template := "\x7bcompany\x7d/\x7broom\x7d-\x7bidentityToken\x7d-\x7bdevice\x7d"
       accesses := TextMap.ofList [("driver", .publish)] } : TopicDefinition).compile =
        .ok presence ∧
      (servingOnly presence).codec.encode 42 .driver = .ok "RpvyDXjl0jWr0k5" ∧
      (servingOnly presence).identityToken presence.hashKind "RpvyDXjl0jWr0k5" .driver =
        .ok "RpvyDXjl0jWr0k5" ∧
      IsSegmentValue "lobby" ∧ IsSegmentValue "phone-1" ∧
      presence.render ((servingOnly presence).ownFields
        ⟨presence, TextMap.ofList [("room", "lobby"), ("device", "phone-1")]⟩ .driver
        "RpvyDXjl0jWr0k5") = "snapp/lobby-RpvyDXjl0jWr0k5-phone-1" ∧
      (servingOnly presence).registry.classify "snapp/lobby-RpvyDXjl0jWr0k5-phone-1" =
        some presence.type ∧
      (servingOnly presence).owns "snapp/lobby-RpvyDXjl0jWr0k5-phone-1" .driver
        "RpvyDXjl0jWr0k5" = false := by
  exact ⟨by decide +kernel, by decide +kernel, by decide +kernel, ⟨by decide, by decide⟩,
    ⟨by decide, by decide⟩, by decide +kernel, by decide +kernel, by decide +kernel⟩

end Ownership

end TopicGate
