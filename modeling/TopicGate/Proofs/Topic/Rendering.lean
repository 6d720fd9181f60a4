import TopicGate.Proofs.Topic.Language

/-!
# Rendering

A template is rendered part by part, and what is rendered behind a company in front is what a cut of
the topic is about.  Where nothing in the template speaks of who is asking, a topic that was cut into
pieces is rendered again from its own segments.

## Main statements
* `renderParts?_cons_eq_some_iff`: the rendering of a part and of the parts behind it.
* `Template.isCut_iff`, `Template.renderParts?_parts`: cuts and renderings of the body.
* `Template.IsCut.renderParts?`: a cut topic is rendered from its segments.
-/

namespace TopicGate

/-! ## §1 Part by part -/

theorem renderParts?_cons_eq_some_iff {fields : TopicFields} {part : Part} {parts : List Part}
    {text : String} :
    Template.renderParts? fields (part :: parts) = some text ↔
      ∃ first rest, part.render? fields = some first ∧
        Template.renderParts? fields parts = some rest ∧ text = first ++ rest := by
  simp only [Template.renderParts?, Option.bind_eq_bind, Option.bind_eq_some_iff, Option.pure_def,
    Option.some.injEq]
  constructor
  · rintro ⟨first, hfirst, rest, hrest, rfl⟩
    exact ⟨first, rest, hfirst, hrest, rfl⟩
  · rintro ⟨first, rest, hfirst, hrest, rfl⟩
    exact ⟨first, hfirst, rest, hrest, rfl⟩

/-- A rendering that is not empty lacks no value. -/
theorem TopicPattern.renderParts?_of_render_eq {pattern : TopicPattern} {fields : TopicFields}
    {text : String} (h : pattern.render fields = text) (hne : text ≠ "") :
    Template.renderParts? fields pattern.template.parts = some text := by
  unfold TopicPattern.render Template.render at h
  cases hparts : Template.renderParts? fields pattern.template.parts with
  | none =>
    rw [hparts] at h
    exact absurd h.symm hne
  | some rendered =>
    rw [hparts] at h
    exact congrArg some h

/-! ## §2 A company in front -/

namespace Template

theorem startsWithCompany_eq_true_iff {template : Template} :
    template.startsWithCompany = true ↔ ∃ parts, template.parts = .field .company :: parts := by
  rw [startsWithCompany, beq_iff_eq, List.head?_eq_some_iff]

/-- The parts behind a company in front; all of them if there is none. -/
def body (template : Template) : List Part :=
  if template.startsWithCompany then template.parts.tail else template.parts

/-- The company leads the body, or the body is all there is. -/
theorem parts_cases (template : Template) :
    (template.startsWithCompany = true ∧ template.parts = .field .company :: template.body) ∨
      (template.startsWithCompany = false ∧ template.parts = template.body ∧
        ∀ parts, template.parts ≠ .field .company :: parts) := by
  by_cases hstarts : template.startsWithCompany = true
  · obtain ⟨parts, hparts⟩ := startsWithCompany_eq_true_iff.mp hstarts
    refine Or.inl ⟨hstarts, ?_⟩
    rw [body, if_pos hstarts, hparts, List.tail_cons]
  · refine Or.inr ⟨by simpa using hstarts, by rw [body, if_neg hstarts], ?_⟩
    intro parts hparts
    exact hstarts (startsWithCompany_eq_true_iff.mpr ⟨parts, hparts⟩)

theorem body_subset (template : Template) : template.body ⊆ template.parts := by
  rcases template.parts_cases with ⟨-, hparts⟩ | ⟨-, hparts, -⟩
  · rw [hparts]
    exact List.subset_cons_self _ _
  · rw [hparts]
    exact List.Subset.refl _

/-- A cut is one of the body: a company in front has nothing left to stand for. -/
theorem isCut_iff {template : Template} {company text : String} {cut : Cut} :
    template.IsCut company text cut ↔ ∃ pieces,
      cut = (if template.startsWithCompany then [] :: pieces else pieces) ∧
      IsPartsCut company false template.body text.toList pieces := by
  unfold IsCut
  rcases template.parts_cases with ⟨hstarts, hparts⟩ | ⟨hstarts, hparts, hleads⟩
  · rw [hparts, hstarts, isPartsCut_cons_iff]
    constructor
    · rintro ⟨piece, pieces, rest, rfl, htext, htakes, hrest⟩
      obtain rfl : piece = [] := htakes
      obtain rfl : rest = text.toList := htext.symm
      exact ⟨pieces, rfl, hrest⟩
    · rintro ⟨pieces, rfl, hpieces⟩
      exact ⟨[], pieces, text.toList, rfl, rfl, rfl, hpieces⟩
  · rw [isPartsCut_leads_iff hleads, hparts, hstarts]
    exact ⟨fun h => ⟨cut, rfl, h⟩, fun ⟨pieces, hcut, h⟩ => hcut ▸ h⟩

/-- The pieces of the body are those of the same parts in the cut of the template. -/
theorem mem_zip_of_body {template : Template} {part : Part} {piece : List Char} {pieces : Cut}
    (h : (part, piece) ∈ template.body.zip pieces) :
    (part, piece) ∈ template.parts.zip
      (if template.startsWithCompany then [] :: pieces else pieces) := by
  rcases template.parts_cases with ⟨hstarts, hparts⟩ | ⟨hstarts, hparts, -⟩
  · rw [hparts, hstarts]
    exact List.mem_cons_of_mem _ h
  · rwa [hparts, hstarts]

/-- Any part but a company stands in the body, with the piece that it has in the cut of the
template. -/
theorem mem_zip_body_of_ne {template : Template} {part : Part} (hpart : part ≠ .field .company)
    {piece : List Char} {pieces : Cut}
    (h : (part, piece) ∈ template.parts.zip
      (if template.startsWithCompany then [] :: pieces else pieces)) :
    (part, piece) ∈ template.body.zip pieces := by
  rcases template.parts_cases with ⟨hstarts, hparts⟩ | ⟨hstarts, hparts, -⟩
  · rw [hparts, hstarts, if_pos rfl, List.zip_cons_cons, List.mem_cons] at h
    apply h.resolve_left
    intro heq
    exact hpart (congrArg Prod.fst heq)
  · rwa [hparts, hstarts] at h

/-- A rendering is one of the body, behind the company if it leads. -/
theorem renderParts?_parts (template : Template) (fields : TopicFields) :
    renderParts? fields template.parts = (renderParts? fields template.body).map fun text =>
      if template.startsWithCompany then fields.company ++ text else text := by
  rcases template.parts_cases with ⟨hstarts, hparts⟩ | ⟨hstarts, hparts, -⟩
  · rw [hparts, hstarts]
    cases hbody : renderParts? fields template.body with
    | none => simp only [renderParts?, hbody, Option.bind_eq_bind, Option.bind_none,
        Option.bind_fun_none, Option.map_none]
    | some text => exact renderParts?_cons_eq_some_iff.mpr ⟨fields.company, text, rfl, hbody, rfl⟩
  · rw [hparts, hstarts]
    exact Option.map_id'.symm

end Template

/-! ## §3 Rendering what was cut -/

/-- Whether the value of a part depends on who is asking. -/
def Part.isIdentityScoped : Part → Bool
  | literal _ => false
  | field placeholder => placeholder.isIdentityScoped

theorem Template.isIdentityScoped_eq_any (template : Template) :
    template.isIdentityScoped = template.parts.any Part.isIdentityScoped := by
  rw [Template.isIdentityScoped, Template.placeholders, List.any_filterMap]
  congr 1
  funext part
  cases part <;> rfl

variable {company : String} {fields : TopicFields}

/-- A part that does not depend on who is asking is rendered as the piece it takes. -/
theorem Part.Takes.render? {part : Part} {piece : List Char} (h : part.Takes company false piece)
    (hshared : part.isIdentityScoped = false) (hcompany : fields.company = company)
    (hsegment : ∀ name, part = .field (.segment name) →
      fields.segments.get? name = some (String.ofList piece)) :
    part.render? fields = some (String.ofList piece) := by
  cases part with
  | literal text =>
    obtain rfl : piece = text.toList := h
    rw [Part.render?, String.ofList_toList]
  | field placeholder =>
    cases placeholder with
    | company =>
      obtain rfl : piece = company.toList := h
      rw [Part.render?, TopicFields.get?, hcompany, String.ofList_toList]
    | audience | peer | identityToken => cases hshared
    | segment name => exact hsegment name rfl

/-- Parts behind the first are rendered as their pieces. -/
theorem IsPartsCut.renderParts? {parts : List Part} {text : List Char} {cut : Cut}
    (h : IsPartsCut company false parts text cut)
    (hshared : parts.any Part.isIdentityScoped = false) (hcompany : fields.company = company)
    (hsegments : ∀ name piece, (Part.field (.segment name), piece) ∈ parts.zip cut →
      fields.segments.get? name = some (String.ofList piece)) :
    Template.renderParts? fields parts = some (String.ofList text) := by
  induction parts generalizing text cut with
  | nil =>
    cases h
    rfl
  | cons part parts ih =>
    obtain ⟨piece, pieces, rest, rfl, rfl, htakes, hrest⟩ := isPartsCut_cons_iff.mp h
    rw [List.any_cons, Bool.or_eq_false_iff] at hshared
    have hpart : part.render? fields = some (String.ofList piece) := by
      apply htakes.render? hshared.1 hcompany
      intro name hname
      apply hsegments name piece
      rw [hname]
      exact List.mem_cons_self
    have hparts : Template.renderParts? fields parts = some (String.ofList rest) := by
      apply ih hrest hshared.2
      intro name piece hmem
      exact hsegments name piece (List.mem_cons_of_mem _ hmem)
    apply renderParts?_cons_eq_some_iff.mpr
    exact ⟨_, _, hpart, hparts, String.ofList_append⟩

/-- What was cut is rendered again, and a company that leads the template comes back in front. -/
theorem Template.IsCut.renderParts? {template : Template} {text : String} {cut : Cut}
    (h : template.IsCut company text cut) (hshared : template.isIdentityScoped = false)
    (hcompany : fields.company = company)
    (hsegments : ∀ name piece, (Part.field (.segment name), piece) ∈ template.parts.zip cut →
      fields.segments.get? name = some (String.ofList piece)) :
    Template.renderParts? fields template.parts =
      some (if template.startsWithCompany then company ++ text else text) := by
  obtain ⟨pieces, rfl, hpieces⟩ := Template.isCut_iff.mp h
  have hbody : template.body.any Part.isIdentityScoped = false := by
    rw [Template.isIdentityScoped_eq_any, List.any_eq_false] at hshared
    rw [List.any_eq_false]
    exact fun part hpart => hshared part (template.body_subset hpart)
  rw [template.renderParts?_parts, hcompany, hpieces.renderParts? hbody hcompany
    fun name piece hmem => hsegments name piece (Template.mem_zip_of_body hmem),
    Option.map_some, String.ofList_toList]

end TopicGate
