import TopicGate.Proofs.TextMap
import TopicGate.Proofs.Topic.Cut

/-!
# The language of a template

A pattern accepts exactly the texts that can be cut into pieces, one for every part of its template,
and what it captures are the pieces of the segments in the longest cut.

## Main statements
* `isCut_steps_iff`: a cut by the steps of a template is a cut by its parts.
* `matcher_exact`: what a pattern accepts, and what it captures.
-/

namespace TopicGate

/-! ## §1 What the parts stand for -/

/-- An ASCII letter or digit. -/
def IsTokenSymbol (c : Char) : Prop :=
  ('0' ≤ c ∧ c ≤ '9') ∨ ('A' ≤ c ∧ c ≤ 'Z') ∨ ('a' ≤ c ∧ c ≤ 'z')

theorem isTokenChar_eq_true_iff {c : Char} : isTokenChar c = true ↔ IsTokenSymbol c := by
  have hclasses : isTokenChar c =
      ((decide (c.val ≥ 'A'.val ∧ c.val ≤ 'Z'.val) ||
        (decide (c.val ≥ 'a'.val) && decide (c.val ≤ 'z'.val))) ||
        (decide (c.val ≥ '0'.val) && decide (c.val ≤ '9'.val))) := rfl
  rw [hclasses]
  simp only [IsTokenSymbol, Bool.or_eq_true, Bool.and_eq_true, decide_eq_true_eq, Char.le_def,
    ge_iff_le]
  tauto

/-- The pieces that a part may stand for in a topic without its company.  A company that leads the
template stands for nothing any more. -/
def Part.Takes (company : String) (leads : Bool) : Part → List Char → Prop
  | .literal text, piece => piece = text.toList
  | .field .company, piece => piece = if leads then [] else company.toList
  | .field .audience, piece => piece = "driver".toList ∨ piece = "passenger".toList
  | .field .peer, piece => piece = "driver".toList ∨ piece = "passenger".toList
  | .field .identityToken, piece => piece ≠ [] ∧ ∀ c ∈ piece, IsTokenSymbol c
  | .field (.segment _), piece => piece ≠ [] ∧ ∀ c ∈ piece, c ≠ '/'

/-- A text is cut into consecutive pieces, one for every part; `leads` says whether the first part
leads the template. -/
inductive IsPartsCut (company : String) : Bool → List Part → List Char → Cut → Prop
  | nil {leads : Bool} : IsPartsCut company leads [] [] []
  | cons {leads : Bool} {part : Part} {parts : List Part} {piece text : List Char} {pieces : Cut} :
      part.Takes company leads piece → IsPartsCut company false parts text pieces →
      IsPartsCut company leads (part :: parts) (piece ++ text) (piece :: pieces)

namespace Template

/-- A cut of a topic without its company by a template. -/
def IsCut (template : Template) (company text : String) (cut : Cut) : Prop :=
  IsPartsCut company true template.parts text.toList cut

/-- A cut that no other cut of the topic outgrows: earlier pieces are as long as possible. -/
structure IsLongestCut (template : Template) (company text : String) (cut : Cut) : Prop where
  isCut : template.IsCut company text cut
  longest : ∀ other, template.IsCut company text other → other = cut ∨ cut.Outgrows other

end Template

/-! ## §2 Cuts by parts and cuts by steps -/

theorem Part.step_takes_iff {company : String} {part : Part} {piece : List Char} :
    (part.step company).Takes piece ↔ part.Takes company false piece := by
  cases part with
  | literal text => simp [Part.step, Step.Takes, Part.Takes]
  | field placeholder =>
    cases placeholder with
    | company => simp [Part.step, Step.Takes, Part.Takes]
    | audience => simp [Part.step, Step.Takes, Part.Takes, Audience.all, Audience.name]
    | peer => simp [Part.step, Step.Takes, Part.Takes, Audience.all, Audience.name]
    | identityToken => simp [Part.step, Step.Takes, Part.Takes, isTokenChar_eq_true_iff]
    | segment name => simp [Part.step, Step.Takes, Part.Takes, isSegmentChar]

/-- Any part but a company takes the same pieces wherever it stands. -/
theorem Part.takes_leads_iff {company : String} {part : Part} (h : part ≠ .field .company)
    {leads : Bool} {piece : List Char} :
    part.Takes company leads piece ↔ part.Takes company false piece := by
  cases part with
  | literal text => rfl
  | field placeholder =>
    cases placeholder with
    | company => exact absurd rfl h
    | audience | peer | identityToken | segment name => rfl

theorem isPartsCut_cons_iff {company : String} {leads : Bool} {part : Part} {parts : List Part}
    {text : List Char} {cut : Cut} :
    IsPartsCut company leads (part :: parts) text cut ↔
      ∃ piece pieces rest, cut = piece :: pieces ∧ text = piece ++ rest ∧
        part.Takes company leads piece ∧ IsPartsCut company false parts rest pieces := by
  constructor
  · intro h
    cases h with
    | cons htakes hrest => exact ⟨_, _, _, rfl, rfl, htakes, hrest⟩
  · rintro ⟨piece, pieces, rest, rfl, rfl, htakes, hrest⟩
    exact IsPartsCut.cons htakes hrest

theorem isCut_cons_iff {step : Step} {steps : List Step} {text : List Char} {cut : Cut} :
    IsCut (step :: steps) text cut ↔
      ∃ piece pieces rest, cut = piece :: pieces ∧ text = piece ++ rest ∧ step.Takes piece ∧
        IsCut steps rest pieces := by
  constructor
  · exact IsCut.of_cons
  · rintro ⟨piece, pieces, rest, rfl, rfl, htakes, hrest⟩
    exact IsCut.cons htakes hrest

/-- Behind the first part, a cut by steps is a cut by parts. -/
theorem isCut_map_step_iff {company : String} {parts : List Part} {text : List Char} {cut : Cut} :
    IsCut (parts.map (Part.step company)) text cut ↔ IsPartsCut company false parts text cut := by
  induction parts generalizing text cut with
  | nil =>
    constructor
    · intro h
      cases h
      exact .nil
    · intro h
      cases h
      exact .nil
  | cons part parts ih =>
    rw [List.map_cons, isCut_cons_iff, isPartsCut_cons_iff]
    simp only [Part.step_takes_iff, ih]

/-- Parts that do not begin with a company are cut the same wherever they stand. -/
theorem isPartsCut_leads_iff {company : String} {parts : List Part}
    (h : ∀ rest, parts ≠ .field .company :: rest) {text : List Char} {cut : Cut} :
    IsPartsCut company true parts text cut ↔ IsPartsCut company false parts text cut := by
  cases parts with
  | nil =>
    constructor
    · intro hcut
      cases hcut
      exact .nil
    · intro hcut
      cases hcut
      exact .nil
  | cons part parts =>
    have hpart : part ≠ .field .company := by
      rintro rfl
      exact h parts rfl
    rw [isPartsCut_cons_iff, isPartsCut_cons_iff]
    simp only [Part.takes_leads_iff hpart]

/-- A cut by the steps of a template is a cut by its parts. -/
theorem isCut_steps_iff {template : Template} {company : String} {text : List Char} {cut : Cut} :
    IsCut (template.steps company) text cut ↔ IsPartsCut company true template.parts text cut := by
  unfold Template.steps
  split
  · next rest hparts =>
    -- A company in front: its step takes nothing, and the later parts take their own pieces.
    rw [hparts, isCut_cons_iff, isPartsCut_cons_iff]
    simp only [isCut_map_step_iff, Step.Takes, Part.Takes, List.mem_singleton, if_true]
  · next hparts =>
    rw [isCut_map_step_iff]
    exact (isPartsCut_leads_iff hparts).symm

/-- The steps of a template never leave a choice: no name of an audience begins the other. -/
theorem isClear_of_mem_steps {template : Template} {company : String} {step : Step}
    (h : step ∈ template.steps company) : step.IsClear := by
  have hsingle : ∀ text, (Step.choice [text]).IsClear := by
    intro text a ha b hb _
    rw [List.mem_singleton.mp ha, List.mem_singleton.mp hb]
  have hpart : ∀ part : Part, (part.step company).IsClear := by
    intro part
    cases part with
    | literal text => exact hsingle _
    | field placeholder =>
      cases placeholder with
      | company => exact hsingle _
      | audience | peer =>
        -- Neither of the two names begins the other.
        have hnames : ∀ a ∈ Audience.all.map fun a => a.name.toList,
            ∀ b ∈ Audience.all.map fun a => a.name.toList, a <+: b → a = b := by
          decide +kernel
        exact hnames
      | identityToken | segment name => trivial
  have hmap : ∀ parts : List Part, ∀ step ∈ parts.map (Part.step company), step.IsClear := by
    intro parts step hstep
    obtain ⟨part, -, rfl⟩ := List.mem_map.mp hstep
    exact hpart part
  unfold Template.steps at h
  split at h
  · rcases List.mem_cons.mp h with rfl | h
    · exact hsingle _
    · exact hmap _ _ h
  · exact hmap _ _ h

namespace Template

variable {template : Template} {company text : String} {cut : Cut}

/-- The search finds the longest cut of a topic by a template. -/
theorem cut?_steps_eq_some_iff :
    cut? (template.steps company) text.toList = some cut ↔
      template.IsLongestCut company text cut := by
  rw [cut?_eq_some_iff fun _ => isClear_of_mem_steps]
  constructor
  · intro h
    exact ⟨isCut_steps_iff.mp h.isCut, fun other hother =>
      h.longest other (isCut_steps_iff.mpr hother)⟩
  · intro h
    exact ⟨isCut_steps_iff.mpr h.isCut, fun other hother =>
      h.longest other (isCut_steps_iff.mp hother)⟩

theorem isSome_cut?_steps_iff :
    (cut? (template.steps company) text.toList).isSome = true ↔
      ∃ cut, template.IsCut company text cut := by
  constructor
  · intro h
    obtain ⟨cut, hcut⟩ := Option.isSome_iff_exists.mp h
    exact ⟨cut, (cut?_steps_eq_some_iff.mp hcut).isCut⟩
  · rintro ⟨cut, hcut⟩
    exact Option.isSome_iff_exists.mpr (exists_cut?_of_isCut (isCut_steps_iff.mpr hcut))

end Template

theorem IsPartsCut.length_eq {company : String} {leads : Bool} {parts : List Part}
    {text : List Char} {cut : Cut} (h : IsPartsCut company leads parts text cut) :
    cut.length = parts.length := by
  induction h with
  | nil => rfl
  | cons _ _ ih => rw [List.length_cons, List.length_cons, ih]

/-! ## §3 Captures -/

namespace TopicPattern

variable {pattern : TopicPattern} {company text : String}

/-- The captured names are the names of the segments. -/
theorem map_fst_captures {parts : List Part} {cut : Cut} (h : cut.length = parts.length) :
    ((parts.zip cut).filterMap capture?).map Prod.fst = Part.segmentNames parts := by
  induction parts generalizing cut with
  | nil => rfl
  | cons part parts ih =>
    cases cut with
    | nil => simp at h
    | cons piece pieces =>
      have hlength : pieces.length = parts.length := by simpa using h
      have ih := ih hlength
      simp only [Part.segmentNames] at ih ⊢
      cases part with
      | literal text =>
        simpa [List.filterMap_cons, capture?, Part.placeholder?] using ih
      | field placeholder =>
        cases placeholder with
        | segment name =>
          simpa [List.filterMap_cons, capture?, Part.placeholder?,
            Placeholder.segmentName?] using ih
        | company | audience | peer | identityToken =>
          simpa [List.filterMap_cons, capture?, Part.placeholder?,
            Placeholder.segmentName?] using ih

theorem mem_captures_iff {parts : List Part} {cut : Cut} {name value : String} :
    (name, value) ∈ (parts.zip cut).filterMap capture? ↔
      (Part.field (.segment name), value.toList) ∈ parts.zip cut := by
  rw [List.mem_filterMap]
  constructor
  · rintro ⟨⟨part, piece⟩, hmem, hcapture⟩
    unfold capture? at hcapture
    split at hcapture
    · next name' piece' heq =>
      cases heq
      cases hcapture
      rwa [String.toList_ofList]
    · cases hcapture
  · intro hmem
    exact ⟨_, hmem, by rw [capture?, String.ofList_toList]⟩

/-- What is captured are the pieces of the segments in the longest cut. -/
theorem captures?_eq_some_iff {segments : TextMap String} :
    pattern.captures? company text = some segments ↔
      ∃ cut, pattern.template.IsLongestCut company text cut ∧
        ∀ name value, segments.get? name = some value ↔
          (Part.field (.segment name), value.toList) ∈ pattern.template.parts.zip cut := by
  have hget : ∀ cut, pattern.template.IsLongestCut company text cut → ∀ name value,
      (TextMap.ofList ((pattern.template.parts.zip cut).filterMap capture?)).get? name =
          some value ↔
        (Part.field (.segment name), value.toList) ∈ pattern.template.parts.zip cut := by
    intro cut hcut name value
    -- The segments of a template have distinct names, so no capture gives way to a later one.
    have hnodup : (((pattern.template.parts.zip cut).filterMap capture?).map Prod.fst).Nodup := by
      rw [map_fst_captures hcut.isCut.length_eq]
      exact pattern.template.distinct
    rw [TextMap.get?_ofList_eq_some_iff hnodup, mem_captures_iff]
  rw [captures?, Option.map_eq_some_iff]
  constructor
  · rintro ⟨cut, hcut, rfl⟩
    have hcut := Template.cut?_steps_eq_some_iff.mp hcut
    exact ⟨cut, hcut, hget cut hcut⟩
  · -- Maps with the same lookups are equal.
    rintro ⟨cut, hcut, hsegments⟩
    refine ⟨cut, Template.cut?_steps_eq_some_iff.mpr hcut, TextMap.ext_get? fun name => ?_⟩
    ext value
    rw [hget cut hcut, hsegments]

/-- A segment is captured exactly if the template names it. -/
theorem isSome_get?_captures_iff {segments : TextMap String}
    (h : pattern.captures? company text = some segments) (name : String) :
    (segments.get? name).isSome = true ↔ name ∈ pattern.template.segmentNames := by
  obtain ⟨cut, hcut, hsegments⟩ := captures?_eq_some_iff.mp h
  rw [Option.isSome_iff_exists, Template.segmentNames, ← map_fst_captures hcut.isCut.length_eq,
    List.mem_map]
  constructor
  · rintro ⟨value, hvalue⟩
    exact ⟨(name, value), mem_captures_iff.mpr ((hsegments name value).mp hvalue), rfl⟩
  · rintro ⟨⟨name', value⟩, hmem, rfl⟩
    exact ⟨value, (hsegments name' value).mpr (mem_captures_iff.mp hmem)⟩

/-- **The matcher is exactly the language of the template.**  Under every company a pattern accepts
a text, and captures segments in it, exactly if the text can be cut into pieces for the parts; and
the captured map has exactly the names of the segments, with the pieces of the longest cut. -/
theorem matcher_exact (pattern : TopicPattern) (company text : String) :
    (pattern.accepts company text = true ↔ ∃ cut, pattern.template.IsCut company text cut) ∧
    ((pattern.captures? company text).isSome = true ↔
      ∃ cut, pattern.template.IsCut company text cut) ∧
    ∀ segments : TextMap String, pattern.captures? company text = some segments ↔
      ∃ cut, pattern.template.IsLongestCut company text cut ∧
        (∀ name, (segments.get? name).isSome = true ↔ name ∈ pattern.template.segmentNames) ∧
        ∀ name value, segments.get? name = some value ↔
          (Part.field (.segment name), value.toList) ∈ pattern.template.parts.zip cut := by
  refine ⟨Template.isSome_cut?_steps_iff, ?_, ?_⟩
  · rw [captures?, Option.isSome_map]
    exact Template.isSome_cut?_steps_iff
  · intro segments
    constructor
    · intro h
      obtain ⟨cut, hcut, hsegments⟩ := captures?_eq_some_iff.mp h
      exact ⟨cut, hcut, isSome_get?_captures_iff h, hsegments⟩
    · rintro ⟨cut, hcut, -, hsegments⟩
      apply captures?_eq_some_iff.mpr
      exact ⟨cut, hcut, hsegments⟩

end TopicPattern

end TopicGate
