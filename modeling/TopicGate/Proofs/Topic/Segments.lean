import TopicGate.Proofs.Topic.Recognition

/-!
# Segments that fill whole levels

What stands between two segments can be cut in several ways, but never with another number of
separators.  A segment that fills a whole level therefore stands between the same two separators in
every cut of a topic, and what is captured for it is what the topic was rendered from.

## Main definitions
* `FillLevels`: the text around each segment ends its level.

## Main statements
* `IsPartsCut.count_separator_eq`: the separators of a topic are those of its template.
* `IsPartsCut.mem_zip_of_fillLevels`: all cuts of a topic agree on the segments.
* `TopicPattern.captures_undo_render`: captures undo rendering.
-/

namespace TopicGate

/-- Each segment stands at the beginning of the parts or behind text that ends in a separator, and at
the end of the parts or in front of text that begins with one. -/
def FillLevels (parts : List Part) : Prop :=
  ∀ before name behind, parts = before ++ .field (.segment name) :: behind →
    (before = [] ∨ ∃ others text, before = others ++ [.literal text] ∧ ['/'] <:+ text.toList) ∧
    (behind = [] ∨ ∃ text others, behind = .literal text :: others ∧ ['/'] <+: text.toList)

/-! ## §1 Separators -/

variable {company : String} {leads : Bool} {part : Part} {parts before behind : List Part}
  {text text' : List Char} {cut cut' : Cut}

/-- Whatever a part stands for has the same number of separators. -/
theorem Part.Takes.count_separator_eq {piece piece' : List Char} (h : part.Takes company leads piece)
    (h' : part.Takes company leads piece') : piece.count '/' = piece'.count '/' := by
  have hname : ∀ {name : List Char}, name = "driver".toList ∨ name = "passenger".toList →
      name.count '/' = 0 := by
    rintro name (rfl | rfl)
    · decide
    · decide
  cases part with
  | literal literal => rw [h, h']
  | field placeholder =>
    cases placeholder with
    | company => rw [h, h']
    | audience | peer => rw [hname h, hname h']
    | identityToken =>
      have htoken : ∀ {token : List Char}, (∀ c ∈ token, IsTokenSymbol c) → token.count '/' = 0 := by
        intro token hsymbols
        apply List.count_eq_zero.mpr
        intro hmem
        exact absurd (isTokenChar_eq_true_iff.mpr (hsymbols _ hmem)) (by decide)
      rw [htoken h.2, htoken h'.2]
    | segment name =>
      rw [List.count_eq_zero.mpr fun hmem => h.2 _ hmem rfl,
        List.count_eq_zero.mpr fun hmem => h'.2 _ hmem rfl]

/-- Texts that are cut by the same parts have the same number of separators. -/
theorem IsPartsCut.count_separator_eq (h : IsPartsCut company leads parts text cut)
    (h' : IsPartsCut company leads parts text' cut') : text.count '/' = text'.count '/' := by
  induction h generalizing text' cut' with
  | nil =>
    cases h'
    rfl
  | cons htakes _ ih =>
    cases h' with
    | cons htakes' hrest' =>
      rw [List.count_append, List.count_append, htakes.count_separator_eq htakes', ih hrest']

/-! ## §2 A part and the text around its piece -/

/-- A cut falls apart before and behind the piece of a part. -/
structure CutAt (company : String) (leads : Bool) (before : List Part) (part : Part)
    (behind : List Part) (front piece back : List Char) : Prop where
  before : ∃ pieces, IsPartsCut company leads before front pieces
  takes : ∃ leads, part.Takes company leads piece
  behind : ∃ pieces, IsPartsCut company false behind back pieces

/-- One more part stands in front. -/
theorem CutAt.cons {first : Part} {front piece back piece₀ : List Char}
    (htakes : first.Takes company leads piece₀)
    (h : CutAt company false before part behind front piece back) :
    CutAt company leads (first :: before) part behind (piece₀ ++ front) piece back where
  before := by
    obtain ⟨pieces, hpieces⟩ := h.before
    exact ⟨piece₀ :: pieces, .cons htakes hpieces⟩
  takes := h.takes
  behind := h.behind

theorem IsPartsCut.exists_cutAt (h : IsPartsCut company leads (before ++ part :: behind) text cut) :
    ∃ front piece back, text = front ++ (piece ++ back) ∧
      (part, piece) ∈ (before ++ part :: behind).zip cut ∧
      CutAt company leads before part behind front piece back := by
  induction before generalizing leads text cut with
  | nil =>
    obtain ⟨piece, pieces, rest, rfl, rfl, htakes, hrest⟩ := isPartsCut_cons_iff.mp h
    exact ⟨[], piece, rest, rfl, List.mem_cons_self, ⟨⟨[], .nil⟩, ⟨leads, htakes⟩, ⟨pieces, hrest⟩⟩⟩
  | cons first before ih =>
    obtain ⟨piece₀, pieces, rest, rfl, rfl, htakes, hrest⟩ := isPartsCut_cons_iff.mp h
    obtain ⟨front, piece, back, rfl, hmem, hat⟩ := ih hrest
    exact ⟨piece₀ ++ front, piece, back, by simp, List.mem_cons_of_mem _ hmem, hat.cons htakes⟩

theorem IsPartsCut.exists_cutAt_of_mem {piece : List Char}
    (h : IsPartsCut company leads parts text cut) (hmem : (part, piece) ∈ parts.zip cut) :
    ∃ before behind front back, parts = before ++ part :: behind ∧
      text = front ++ (piece ++ back) ∧
      CutAt company leads before part behind front piece back := by
  induction h with
  | nil => simp at hmem
  | @cons leads first parts piece₀ rest pieces htakes hrest ih =>
    rw [List.zip_cons_cons, List.mem_cons, Prod.mk.injEq] at hmem
    rcases hmem with ⟨rfl, rfl⟩ | hmem
    · exact ⟨[], parts, [], rest, rfl, rfl, ⟨⟨[], .nil⟩, ⟨leads, htakes⟩, ⟨pieces, hrest⟩⟩⟩
    · obtain ⟨before, behind, front, back, rfl, rfl, hat⟩ := ih hmem
      exact ⟨first :: before, behind, piece₀ ++ front, back, rfl, by simp, hat.cons htakes⟩

/-- Text that ends in a separator ends the text of the parts up to it. -/
theorem IsPartsCut.ends_separator {literal : String}
    (h : IsPartsCut company leads (before ++ [.literal literal]) text cut)
    (hliteral : ['/'] <:+ literal.toList) : ['/'] <:+ text := by
  obtain ⟨front, piece, back, rfl, -, hat⟩ := h.exists_cutAt
  obtain ⟨_, rfl⟩ := hat.takes
  obtain ⟨_, hback⟩ := hat.behind
  cases hback
  rw [List.append_nil]
  exact hliteral.trans (List.suffix_append _ _)

/-- Text that begins with a separator begins the text of the parts from it on. -/
theorem IsPartsCut.begins_separator {literal : String}
    (h : IsPartsCut company leads (.literal literal :: behind) text cut)
    (hliteral : ['/'] <+: literal.toList) : ['/'] <+: text := by
  obtain ⟨piece, pieces, rest, -, rfl, rfl, -⟩ := isPartsCut_cons_iff.mp h
  exact hliteral.trans (List.prefix_append _ _)

/-! ## §3 All cuts agree -/

/-- A segment that fills its level has one piece: up to it all cuts have the same separators, and the
next one ends it. -/
theorem CutAt.piece_eq {name : String} {front piece back front' piece' back' : List Char}
    (h : CutAt company leads before (.field (.segment name)) behind front piece back)
    (h' : CutAt company leads before (.field (.segment name)) behind front' piece' back')
    (hfront : before = [] ∨ ∃ others literal, before = others ++ [.literal literal] ∧
      ['/'] <:+ literal.toList)
    (hback : behind = [] ∨ ∃ literal others, behind = .literal literal :: others ∧
      ['/'] <+: literal.toList)
    (htext : front ++ (piece ++ back) = front' ++ (piece' ++ back')) : piece = piece' := by
  obtain ⟨pieces, hbefore⟩ := h.before
  obtain ⟨pieces', hbefore'⟩ := h'.before
  have hcount := hbefore.count_separator_eq hbefore'
  -- The segment begins behind the same separator.
  have hrest : piece ++ back = piece' ++ back' := by
    rcases hfront with rfl | ⟨others, literal, rfl, hliteral⟩
    · cases hbefore
      cases hbefore'
      exact htext
    · obtain ⟨level, rfl⟩ := hbefore.ends_separator hliteral
      obtain ⟨level', rfl⟩ := hbefore'.ends_separator hliteral
      have hcount : level.count '/' = level'.count '/' := by simpa using hcount
      rw [List.append_assoc, List.append_assoc] at htext
      have hdivided := append_inj_of_countP_eq htext (by decide) (by decide) hcount
      exact (List.cons.inj hdivided.2).2
  -- It ends in front of the next one, or with the topic.
  obtain ⟨leads, htakes⟩ := h.takes
  obtain ⟨_, htakes'⟩ := h'.takes
  -- What a segment takes does not depend on where it stands.
  have htakes' : (Part.field (.segment name)).Takes company leads piece' := htakes'
  have hcount := htakes.count_separator_eq htakes'
  obtain ⟨pieces, hbehind⟩ := h.behind
  obtain ⟨pieces', hbehind'⟩ := h'.behind
  rcases hback with rfl | ⟨literal, others, rfl, hliteral⟩
  · cases hbehind
    cases hbehind'
    simpa using hrest
  · obtain ⟨level, rfl⟩ := hbehind.begins_separator hliteral
    obtain ⟨level', rfl⟩ := hbehind'.begins_separator hliteral
    exact (append_inj_of_countP_eq hrest (by decide) (by decide) hcount).1

/-- Where segments fill whole levels, all cuts of a text have the same pieces for them. -/
theorem IsPartsCut.mem_zip_of_fillLevels (hlevels : FillLevels parts)
    (h : IsPartsCut company leads parts text cut) (h' : IsPartsCut company leads parts text cut')
    {name : String} {piece : List Char}
    (hmem : (Part.field (.segment name), piece) ∈ parts.zip cut) :
    (Part.field (.segment name), piece) ∈ parts.zip cut' := by
  obtain ⟨before, behind, front, back, rfl, rfl, hat⟩ := h.exists_cutAt_of_mem hmem
  obtain ⟨front', piece', back', htext, hmem', hat'⟩ := h'.exists_cutAt
  obtain ⟨hfront, hback⟩ := hlevels before name behind rfl
  rwa [hat.piece_eq hat' hfront hback htext]

/-! ## §4 Captures -/

namespace TopicPattern

/-- **Captures undo rendering.**  Where every segment fills whole levels, what is captured in a
rendered topic, once the company that leads it is taken off, are exactly the values that the segments
were rendered from, whatever stands between them. -/
theorem captures_undo_render {pattern : TopicPattern} {fields : TopicFields}
    (hlevels : FillLevels pattern.template.parts)
    (hfits : fields.Fits company pattern.template.segmentNames) :
    ∃ text segments, pattern.render fields =
        (if pattern.template.startsWithCompany then company ++ text else text) ∧
      pattern.captures? company text = some segments ∧
      ∀ name, segments.get? name =
        if name ∈ pattern.template.segmentNames then fields.segments.get? name else none := by
  obtain ⟨text, own, hrender, hown, hvalues⟩ := Template.exists_isCut_of_fits hfits
  have hcaptured : (pattern.captures? company text).isSome = true := by
    rw [captures?, Option.isSome_map]
    exact Template.isSome_cut?_steps_iff.mpr ⟨own, hown⟩
  obtain ⟨segments, hsegments⟩ := Option.isSome_iff_exists.mp hcaptured
  refine ⟨text, segments, ?_, hsegments, ?_⟩
  · rw [render, Template.render, hrender, Option.getD_some]
  · intro name
    have hnamed := isSome_get?_captures_iff hsegments name
    obtain ⟨cut, hcut, hpieces⟩ := captures?_eq_some_iff.mp hsegments
    split
    · next hname =>
      -- The piece in the cut that is found is the one that was rendered.
      obtain ⟨value, hvalue⟩ := Option.isSome_iff_exists.mp (hnamed.mpr hname)
      have hrendered := hvalues name value.toList
        (hcut.isCut.mem_zip_of_fillLevels hlevels hown ((hpieces name value).mp hvalue))
      rw [hvalue, hrendered, String.ofList_toList]
    · next hname => simpa using mt hnamed.mp hname

/-- A berth in a zone, with the token of a caller twice in between. -/
def berth : TopicPattern where
  type := "berth"
  template :=
    { parts := [.field .company, .literal "/", .field (.segment "zone"), .literal "/",
        .field .identityToken, .field .identityToken, .field .company, .literal "/",
        .field (.segment "door")]
      distinct := by decide }
  hashKind := .identity
  accesses := ⟨some .publish, none⟩

theorem fillLevels_berth : FillLevels berth.template.parts := by
  intro before name behind h
  simp only [berth, List.cons_eq_append_iff] at h
  simp at h
  obtain ⟨_, rfl, ⟨rfl, rfl, rfl⟩ | ⟨rfl, rfl, rfl⟩⟩ := h
  · exact ⟨Or.inr ⟨[.field .company], "/", rfl, by decide⟩, Or.inr ⟨"/", _, rfl, by decide⟩⟩
  · refine ⟨Or.inr ⟨[.field .company, .literal "/", .field (.segment "zone"), .literal "/",
      .field .identityToken, .field .identityToken, .field .company], "/", rfl, by decide⟩, Or.inl rfl⟩

/-- A driver's berth, under a company with a separator in its name. -/
def berthFields : TopicFields where
  company := "ac/me"
  audience := some .driver
  peer := some .passenger
  identityToken := some "7a"
  segments := TextMap.ofList [("door", "a.b"), ("zone", "north")]

theorem fits_berthFields : berthFields.Fits "ac/me" berth.template.segmentNames where
  company_eq := rfl
  audience := rfl
  peer := rfl
  token := by
    have hsymbols : "7a".toList.all isTokenChar = true := by decide
    refine ⟨"7a", rfl, by decide, ?_⟩
    intro c hc
    exact isTokenChar_eq_true_iff.mp (List.all_eq_true.mp hsymbols c hc)
  segments := by
    intro name hname
    rw [show berth.template.segmentNames = ["zone", "door"] from rfl] at hname
    rcases List.mem_pair.mp hname with rfl | rfl
    · exact ⟨"north", rfl, by decide, by decide⟩
    · exact ⟨"a.b", rfl, by decide, by decide⟩

/-- The tokens are cut otherwise than they were rendered, and the segments are captured all the
same. -/
theorem captures_undo_render_berth :
    FillLevels berth.template.parts ∧ berthFields.Fits "ac/me" berth.template.segmentNames ∧
      berth.render berthFields = "ac/me/north/7a7aac/me/a.b" ∧
      ∃ segments, berth.captures? "ac/me" "/north/7a7aac/me/a.b" = some segments ∧
        segments.get? "zone" = some "north" ∧ segments.get? "door" = some "a.b" := by
  have hrender : berth.render berthFields = "ac/me/north/7a7aac/me/a.b" := by
    decide +kernel
  obtain ⟨text, segments, htext, hsegments, hvalues⟩ :=
    captures_undo_render fillLevels_berth fits_berthFields
  obtain rfl : "/north/7a7aac/me/a.b" = text := by
    apply (String.append_right_inj "ac/me").mp
    exact hrender.symm.trans htext
  exact ⟨fillLevels_berth, fits_berthFields, hrender, segments, hsegments, hvalues "zone",
    hvalues "door"⟩

end TopicPattern

end TopicGate
