import TopicGate.Proofs.Topic.Lexeme

/-!
# The grammar of templates

The reader of templates against the reading of a text: it accepts what is grammatical, with the parts
that are spelled there, and reports the leftmost brace that offends in anything else.

## Main definitions
* `Stands`: what the reader knows of the lexemes behind it.
* `partsOf`: the parts that lexemes spell.
* `IsNormal`: parts as a template has them.

## Main statements
* `readParts_of_isClean`, `readParts_of_offends`: what the reader makes of a reading.
* `partsOf_lexemes`, `flatMap_lexemes_partsOf`: normal parts and what they are written from.
* `Template.parse_exact`: what is accepted, what is read, and what is reported of anything else.
-/

namespace TopicGate

/-! ## §1 The reader -/

namespace Template

variable {seen : List String} {position opened : Nat} {read text rest name : List Char}

/-- Up to a closing brace everything belongs to the name. -/
theorem readParts_name (hname : '\x7d' ∉ name) :
    readParts seen position (.name opened read) (name ++ rest) =
      readParts seen (position + byteLength name) (.name opened (name.reverse ++ read)) rest := by
  induction name generalizing position read with
  | nil => rfl
  | cons c name ih =>
    simp only [List.mem_cons, not_or] at hname
    rw [List.cons_append, readParts, if_neg (Ne.symm hname.1), ih hname.2]
    simp [Nat.add_assoc]

theorem readParts_char {c : Char} (hopen : c ≠ '\x7b') (hclose : c ≠ '\x7d') :
    readParts seen position (.literal read) (c :: text) =
      readParts seen (position + c.utf8Size) (.literal (c :: read)) text := by
  rw [readParts, if_neg hopen, if_neg hclose]

theorem readParts_close :
    readParts seen position (.literal read) ('\x7d' :: text) = .error (.unexpectedClose position) := by
  rw [readParts, if_neg (by decide), if_pos rfl]

theorem readParts_unclosed (hrest : '\x7d' ∉ rest) :
    readParts seen position (.literal read) ('\x7b' :: rest) =
      .error (.unclosedPlaceholder position) := by
  rw [readParts, if_pos rfl, ← List.append_nil rest, readParts_name hrest]
  rfl

/-- A group becomes a placeholder behind the literal text before it, and reading starts anew behind
it. -/
theorem readParts_group (hname : '\x7d' ∉ name) :
    readParts seen position (.literal read) ('\x7b' :: (name ++ '\x7d' :: text)) =
      (placeholderOf seen position name).bind fun placeholder =>
        (readParts (placeholder.segmentName?.toList ++ seen)
          (position + byteLength (Lexeme.group name).text) (.literal []) text).map fun parts =>
            consLiteral read (.field placeholder :: parts) := by
  have hposition : position + byteLength (Lexeme.group name).text =
      position + '\x7b'.utf8Size + byteLength name + '\x7d'.utf8Size := by
    simp [Lexeme.text, Nat.add_assoc]
  -- Over the opening brace, the name and the closing brace.
  rw [readParts, if_pos rfl, readParts_name hname, readParts, if_pos rfl, hposition]
  simp only [List.append_nil, List.reverse_reverse]
  cases placeholderOf seen position name with
  | error e => rfl
  | ok placeholder =>
    simp only [Except.bind]
    generalize readParts _ _ _ text = result
    cases result <;> rfl

/-- The reader stands behind lexemes: it knows their segments and how many bytes they are. -/
structure Stands (done : List Lexeme) (seen : List String) (position : Nat) : Prop where
  seen_iff : ∀ name, name ∈ seen ↔ name ∈ Lexeme.segments done
  position_eq : position = byteLength (done.flatMap Lexeme.text)

namespace Stands

variable {done : List Lexeme}

theorem nil : Stands [] [] 0 := ⟨fun _ => Iff.rfl, rfl⟩

theorem char (h : Stands done seen position) (c : Char) :
    Stands (done ++ [.char c]) seen (position + c.utf8Size) where
  seen_iff other := by simp [h.seen_iff, Lexeme.segments, Lexeme.segment?]
  position_eq := by simp [h.position_eq, Lexeme.text]

theorem group (h : Stands done seen position) (name : List Char) :
    Stands (done ++ [.group name])
      ((Placeholder.ofName (String.ofList name)).segmentName?.toList ++ seen)
      (position + byteLength (Lexeme.group name).text) where
  seen_iff other := by
    have hsegments : Lexeme.segments (done ++ [.group name]) = Lexeme.segments done ++
        (Placeholder.ofName (String.ofList name)).segmentName?.toList := by
      rw [segmentName?_ofName]
      simp only [Lexeme.segments, List.filterMap_append, Lexeme.segment?, List.filterMap_cons,
        List.filterMap_nil]
      split_ifs <;> simp_all
    rw [hsegments, List.mem_append, List.mem_append, h.seen_iff, or_comm]
  position_eq := by simp [h.position_eq]

/-- A group that offends makes no placeholder. -/
theorem placeholderOf_of_offends (h : Stands done seen position) {e : TemplateError}
    (hoffends : Offends done (.group name) e) : placeholderOf seen position name = .error e := by
  unfold placeholderOf
  cases hoffends with
  | empty => rw [if_pos rfl, h.position_eq]
  | invalid hempty hname =>
    rw [← isIdentifier_eq_true_iff, Bool.not_eq_true] at hname
    simp [hempty, hname]
  | duplicate hname hknown hmem =>
    have hseen : String.ofList name ∈ seen := by
      rw [h.seen_iff, mem_segments_iff, String.toList_ofList]
      exact ⟨hmem, hknown⟩
    have hsegment : Placeholder.ofName (String.ofList name) = .segment (String.ofList name) := by
      simp only [wellKnownNames, List.mem_cons, List.not_mem_nil, or_false, not_or] at hknown
      simp [Placeholder.ofName, hknown]
    simp [hname.ne_nil, isIdentifier_eq_true_iff.mpr hname, hsegment, hseen]

/-- Any other group makes the placeholder that it names. -/
theorem placeholderOf_of_clean (h : Stands done seen position)
    (hclean : ∀ e, ¬Offends done (.group name) e) :
    placeholderOf seen position name = .ok (Placeholder.ofName (String.ofList name)) := by
  have hname := isIdentifier_of_clean hclean
  unfold placeholderOf
  -- Only a segment can be refused, and only if it was named before.
  rw [if_neg hname.ne_nil, if_neg (by simp [isIdentifier_eq_true_iff.mpr hname])]
  split
  · next segment hsegment =>
    have hnamed := segmentName?_ofName (String.ofList name)
    rw [hsegment] at hnamed
    split_ifs at hnamed with hknown
    · cases hnamed
    obtain rfl : segment = String.ofList name := Option.some.inj hnamed
    rw [if_neg, hsegment]
    intro hseen
    rw [h.seen_iff, mem_segments_iff, String.toList_ofList] at hseen
    exact hclean _ (.duplicate hname hknown hseen.1)
  · rfl

end Stands

/-- The parts that lexemes spell behind a stretch of literal text, which is given in reverse. -/
def partsOf (read : List Char) : List Lexeme → List Part
  | .char c :: lexemes => partsOf (c :: read) lexemes
  | .group name :: lexemes =>
    consLiteral read (.field (Placeholder.ofName (String.ofList name)) :: partsOf [] lexemes)
  | _ => consLiteral read []

/-- Where nothing offends, the parts are read that the lexemes spell. -/
theorem readParts_of_isClean {done lexemes : List Lexeme} (hstands : Stands done seen position)
    (h : IsLexed text lexemes) (hclean : IsClean done lexemes) :
    readParts seen position (.literal read) text = .ok (partsOf read lexemes) := by
  induction h generalizing done seen position read with
  | nil => rfl
  | char hopen hclose _ ih =>
    rw [readParts_char hopen hclose]
    exact ih (hstands.char _) (isClean_cons_iff.mp hclean).2
  | group hname _ ih =>
    obtain ⟨hgroup, hclean⟩ := isClean_cons_iff.mp hclean
    rw [readParts_group hname, hstands.placeholderOf_of_clean hgroup, Except.bind,
      ih (hstands.group _) hclean]
    rfl
  | close => exact absurd .close ((isClean_cons_iff.mp hclean).1 _)
  | unclosed => exact absurd .unclosed ((isClean_cons_iff.mp hclean).1 _)

/-- The first lexeme that offends is reported. -/
theorem readParts_of_offends {done before behind : List Lexeme} {lexeme : Lexeme}
    {e : TemplateError} (hstands : Stands done seen position)
    (h : IsLexed text (before ++ lexeme :: behind)) (hclean : IsClean done before)
    (hoffends : Offends (done ++ before) lexeme e) :
    readParts seen position (.literal read) text = .error e := by
  induction before generalizing done seen position read text with
  | nil =>
    rw [List.append_nil] at hoffends
    cases h with
    | char => cases hoffends
    | group hname =>
      rw [readParts_group hname, hstands.placeholderOf_of_offends hoffends]
      rfl
    | close =>
      cases hoffends
      rw [readParts_close, hstands.position_eq]
    | unclosed hrest =>
      cases hoffends
      rw [readParts_unclosed hrest, hstands.position_eq]
  | cons first before ih =>
    -- The first lexeme does not offend, so it is read, and the reader stands behind it.
    obtain ⟨hfirst, hclean⟩ := isClean_cons_iff.mp hclean
    rw [List.append_cons] at hoffends
    rw [List.cons_append] at h
    generalize hothers : before ++ lexeme :: behind = others at h
    cases h with
    | char hopen hclose h =>
      rw [readParts_char hopen hclose]
      exact ih (hstands.char _) (hothers ▸ h) hclean hoffends
    | group hname h =>
      -- What is read behind the group fails, and so does the whole.
      rw [readParts_group hname, hstands.placeholderOf_of_clean hfirst, Except.bind,
        ih (hstands.group _) (hothers ▸ h) hclean hoffends]
      rfl
    | close => exact absurd .close (hfirst _)
    | unclosed => exact absurd .unclosed (hfirst _)

end Template

/-! ## §2 The parts -/

/-- A part as a template has it: literal text holds at least one character and no brace, and a
placeholder is the one that its name stands for. -/
def Part.IsProper : Part → Prop
  | .literal text => text ≠ "" ∧ ∀ c ∈ text.toList, c ≠ '\x7b' ∧ c ≠ '\x7d'
  | .field placeholder =>
    IsIdentifier placeholder.name.toList ∧ Placeholder.ofName placeholder.name = placeholder

/-- Parts as a template has them: no two stretches of literal text are adjacent. -/
structure IsNormal (parts : List Part) : Prop where
  proper : ∀ part ∈ parts, part.IsProper
  apart : ∀ before first second behind,
    parts ≠ before ++ .literal first :: .literal second :: behind

theorem isNormal_nil : IsNormal [] where
  proper := by simp
  apart := by simp

theorem isNormal_cons_iff {part : Part} {parts : List Part} :
    IsNormal (part :: parts) ↔ part.IsProper ∧
      (∀ first second behind, part = .literal first → parts ≠ .literal second :: behind) ∧
      IsNormal parts := by
  constructor
  · intro h
    obtain ⟨hpart, hparts⟩ := List.forall_mem_cons.mp h.proper
    refine ⟨hpart, ?_, ⟨hparts, ?_⟩⟩
    · rintro first second behind rfl rfl
      exact h.apart [] first second behind rfl
    · rintro before first second behind rfl
      exact h.apart (part :: before) first second behind rfl
  · rintro ⟨hpart, hnext, hparts⟩
    refine ⟨List.forall_mem_cons.mpr ⟨hpart, hparts.proper⟩, ?_⟩
    rintro (_ | ⟨other, before⟩) first second behind hsplit
    · obtain ⟨rfl, hbehind⟩ := List.cons.inj hsplit
      exact hnext first second behind rfl hbehind
    · exact hparts.apart before first second behind (List.cons.inj hsplit).2

/-- What a part is written from. -/
def Part.lexemes : Part → List Lexeme
  | .literal text => text.toList.map .char
  | .field placeholder => [.group placeholder.name.toList]

theorem Part.text_lexemes (part : Part) :
    part.lexemes.flatMap Lexeme.text = part.source.toList := by
  cases part with
  | literal text => simp [lexemes, source, List.flatMap_map, Lexeme.text]
  | field placeholder => simp [lexemes, source, Lexeme.text]

theorem text_flatMap_lexemes (parts : List Part) :
    (parts.flatMap Part.lexemes).flatMap Lexeme.text = (String.join (parts.map Part.source)).toList := by
  rw [String.toList_join, List.flatMap_map, List.flatMap_assoc]
  simp only [Part.text_lexemes]

/-- Parts as a template has them are written from proper lexemes. -/
theorem Part.IsProper.lexemes {part : Part} (h : part.IsProper) :
    ∀ lexeme ∈ part.lexemes, lexeme.IsProper := by
  cases part with
  | literal text =>
    intro lexeme hmem
    obtain ⟨c, hc, rfl⟩ := List.mem_map.mp hmem
    exact h.2 c hc
  | field placeholder =>
    intro lexeme hmem
    obtain rfl := List.mem_singleton.mp hmem
    exact h.1

namespace Template

theorem partsOf_chars (read text : List Char) (lexemes : List Lexeme) :
    partsOf read (text.map .char ++ lexemes) = partsOf (text.reverse ++ read) lexemes := by
  induction text generalizing read with
  | nil => rfl
  | cons c text ih => simp [partsOf, ih]

/-- Parts as a template has them are spelled by what they are written from. -/
theorem partsOf_lexemes {parts : List Part} (h : IsNormal parts) :
    partsOf [] (parts.flatMap Part.lexemes) = parts := by
  induction parts with
  | nil => rfl
  | cons part parts ih =>
    obtain ⟨hpart, hnext, hparts⟩ := isNormal_cons_iff.mp h
    have ih := ih hparts
    cases part with
    | field placeholder =>
      -- No text was read before the placeholder.
      show consLiteral [] (.field (Placeholder.ofName (String.ofList placeholder.name.toList)) ::
        partsOf [] (parts.flatMap Part.lexemes)) = _
      rw [ih, String.ofList_toList, hpart.2]
      rfl
    | literal text =>
      have hread : text.toList.reverse ≠ [] := by simpa using hpart.1
      have hliteral : ∀ others, consLiteral text.toList.reverse others = .literal text :: others := by
        intro others
        rw [consLiteral, if_neg hread, List.reverse_reverse, String.ofList_toList]
      rw [List.flatMap_cons, Part.lexemes, partsOf_chars, List.append_nil]
      -- The text ends where the parts end or where a placeholder begins.
      cases parts with
      | nil => exact hliteral []
      | cons next parts =>
        cases next with
        | literal other => exact absurd rfl (hnext text other parts rfl)
        | field placeholder => exact (hliteral _).trans (congrArg _ ih)

theorem isNormal_consLiteral {read : List Char} {parts : List Part}
    (hread : ∀ c ∈ read, c ≠ '\x7b' ∧ c ≠ '\x7d') (hparts : IsNormal parts)
    (hnext : ∀ second behind, parts ≠ .literal second :: behind) :
    IsNormal (consLiteral read parts) := by
  unfold consLiteral
  split
  · exact hparts
  · next hne =>
    refine isNormal_cons_iff.mpr ⟨⟨?_, ?_⟩, fun _ second behind _ => hnext second behind, hparts⟩
    · simpa using hne
    · simpa using hread

/-- What proper lexemes spell are parts as a template has them. -/
theorem isNormal_partsOf {read : List Char} {lexemes : List Lexeme}
    (hread : ∀ c ∈ read, c ≠ '\x7b' ∧ c ≠ '\x7d') (h : ∀ lexeme ∈ lexemes, lexeme.IsProper) :
    IsNormal (partsOf read lexemes) := by
  induction lexemes generalizing read with
  | nil => exact isNormal_consLiteral hread isNormal_nil (by simp)
  | cons lexeme lexemes ih =>
    obtain ⟨hproper, hothers⟩ := List.forall_mem_cons.mp h
    cases lexeme with
    | char c => exact ih (List.forall_mem_cons.mpr ⟨hproper, hread⟩) hothers
    | group name =>
      apply isNormal_consLiteral hread _ (by simp)
      refine isNormal_cons_iff.mpr ⟨⟨?_, ?_⟩, by simp, ih (by simp) hothers⟩
      · rwa [name_ofName, String.toList_ofList]
      · rw [name_ofName]
    | close | unclosed => exact hproper.elim

theorem flatMap_lexemes_consLiteral (read : List Char) (parts : List Part) :
    (consLiteral read parts).flatMap Part.lexemes =
      read.reverse.map Lexeme.char ++ parts.flatMap Part.lexemes := by
  unfold consLiteral
  split
  · next h => simp [h]
  · simp [Part.lexemes]

/-- What proper lexemes spell is written from them. -/
theorem flatMap_lexemes_partsOf {read : List Char} {lexemes : List Lexeme}
    (h : ∀ lexeme ∈ lexemes, lexeme.IsProper) :
    (partsOf read lexemes).flatMap Part.lexemes = read.reverse.map Lexeme.char ++ lexemes := by
  induction lexemes generalizing read with
  | nil => simp [partsOf, flatMap_lexemes_consLiteral]
  | cons lexeme lexemes ih =>
    obtain ⟨hproper, hothers⟩ := List.forall_mem_cons.mp h
    cases lexeme with
    | char c => simp [partsOf, ih hothers]
    | group name => simp [partsOf, flatMap_lexemes_consLiteral, ih hothers, Part.lexemes]
    | close | unclosed => exact hproper.elim

/-! ## §3 Templates -/

theorem parse_eq_ok {source : String} {parts : List Part}
    (h : readParts [] 0 (.literal []) source.toList = .ok parts) :
    ∃ template, parse source = .ok template ∧ template.parts = parts := by
  unfold parse
  split
  · next others hothers =>
    rw [h] at hothers
    exact ⟨_, rfl, (Except.ok.inj hothers).symm⟩
  · next e he =>
    rw [h] at he
    cases he

theorem parse_eq_error {source : String} {e : TemplateError}
    (h : readParts [] 0 (.literal []) source.toList = .error e) : parse source = .error e := by
  unfold parse
  split
  · next parts hparts =>
    rw [h] at hparts
    cases hparts
  · next other hother =>
    rw [h] at hother
    cases hother
    rfl

/-- The leftmost brace that offends in a source. -/
def Faults (source : String) (e : TemplateError) : Prop :=
  ∃ before lexeme behind, IsLexed source.toList (before ++ lexeme :: behind) ∧
    Offends before lexeme e ∧
    ∀ earlier other later, before = earlier ++ other :: later → ∀ e', ¬Offends earlier other e'

variable {source : String} {lexemes : List Lexeme} {template : Template} {e : TemplateError}

/-- A source is grammatical, or one of its braces is the leftmost to offend. -/
theorem isGrammatical_or_faults (h : IsLexed source.toList lexemes) :
    IsGrammatical lexemes ∨ ∃ e, Faults source e := by
  rcases isClean_or_offends [] lexemes with hclean | ⟨before, lexeme, behind, e, rfl, hclean, he⟩
  · exact Or.inl (h.isGrammatical hclean ⟨by simp, List.nodup_nil⟩)
  · exact Or.inr ⟨e, before, lexeme, behind, h, he, fun earlier other later hsplit e' =>
      hclean earlier other later e' hsplit⟩

/-- A source in which nothing offends is a template of the parts that it spells. -/
theorem parse_of_isGrammatical (h : IsLexed source.toList lexemes)
    (hgrammatical : IsGrammatical lexemes) :
    ∃ template, parse source = .ok template ∧ template.parts = partsOf [] lexemes :=
  parse_eq_ok (readParts_of_isClean Stands.nil h hgrammatical.isClean)

theorem parse_of_faults (h : Faults source e) : parse source = .error e := by
  obtain ⟨before, lexeme, behind, hlexed, hoffends, hfirst⟩ := h
  apply parse_eq_error
  apply readParts_of_offends Stands.nil hlexed _ hoffends
  intro earlier other later e' hsplit
  exact hfirst earlier other later hsplit e'

/-- A source that is accepted is grammatical, and its parts are those that it spells. -/
theorem parts_of_parse (h : IsLexed source.toList lexemes) (htemplate : parse source = .ok template) :
    IsGrammatical lexemes ∧ template.parts = partsOf [] lexemes := by
  rcases isGrammatical_or_faults h with hgrammatical | ⟨e, he⟩
  · obtain ⟨other, hother, hparts⟩ := parse_of_isGrammatical h hgrammatical
    obtain rfl : template = other := Except.ok.inj (htemplate.symm.trans hother)
    exact ⟨hgrammatical, hparts⟩
  · rw [parse_of_faults he] at htemplate
    cases htemplate

/-- What is reported is the leftmost brace that offends. -/
theorem faults_of_parse (h : parse source = .error e) : Faults source e := by
  obtain ⟨lexemes, hlexed⟩ := exists_isLexed source.toList
  rcases isGrammatical_or_faults hlexed with hgrammatical | ⟨e', he'⟩
  · obtain ⟨template, htemplate, -⟩ := parse_of_isGrammatical hlexed hgrammatical
    rw [htemplate] at h
    cases h
  · obtain rfl : e' = e := Except.error.inj ((parse_of_faults he').symm.trans h)
    exact he'

/-- Normal parts that are written as a source are those that the source spells. -/
theorem eq_partsOf_of_source {parts : List Part} (h : IsLexed source.toList lexemes)
    (hnormal : IsNormal parts) (hsource : String.join (parts.map Part.source) = source) :
    parts = partsOf [] lexemes := by
  have hproper : ∀ lexeme ∈ parts.flatMap Part.lexemes, lexeme.IsProper := by
    intro lexeme hmem
    obtain ⟨part, hpart, hlexeme⟩ := List.mem_flatMap.mp hmem
    exact (hnormal.proper part hpart).lexemes lexeme hlexeme
  have htext : source.toList = (parts.flatMap Part.lexemes).flatMap Lexeme.text := by
    rw [text_flatMap_lexemes, hsource]
  -- The parts are written from lexemes, and the source has no other reading.
  rw [← h.eq_of_isProper hproper htext, partsOf_lexemes hnormal]

/-- **The reader accepts exactly the grammar of templates and loses nothing.**  A source is accepted
exactly if it is written from characters that are no braces and from identifiers between braces, with
no segment named twice.  The parts of the template are then the only ones that give the source when
they are written back.  Any other source has a leftmost brace that offends, and that is what is
reported. -/
theorem parse_exact (source : String) :
    ((∃ template, parse source = .ok template) ↔
      ∃ lexemes, source.toList = lexemes.flatMap Lexeme.text ∧ IsGrammatical lexemes) ∧
    (∀ template, parse source = .ok template → IsNormal template.parts ∧
      template.source = source ∧
      ∀ parts, IsNormal parts → String.join (parts.map Part.source) = source →
        parts = template.parts) ∧
    ∀ e, parse source = .error e ↔ Faults source e := by
  obtain ⟨lexemes, hlexed⟩ := exists_isLexed source.toList
  refine ⟨⟨?_, ?_⟩, ?_, fun e => ⟨faults_of_parse, parse_of_faults⟩⟩
  · rintro ⟨template, htemplate⟩
    exact ⟨lexemes, hlexed.flatMap_text.symm, (parts_of_parse hlexed htemplate).1⟩
  · rintro ⟨others, htext, hgrammatical⟩
    obtain rfl := hlexed.eq_of_isProper hgrammatical.proper htext
    obtain ⟨template, htemplate, -⟩ := parse_of_isGrammatical hlexed hgrammatical
    exact ⟨template, htemplate⟩
  · intro template htemplate
    obtain ⟨hgrammatical, hparts⟩ := parts_of_parse hlexed htemplate
    refine ⟨?_, ?_, ?_⟩
    · rw [hparts]
      exact isNormal_partsOf (by simp) hgrammatical.proper
    · rw [← String.toList_inj, Template.source, ← text_flatMap_lexemes, hparts,
        flatMap_lexemes_partsOf hgrammatical.proper]
      exact hlexed.flatMap_text
    · intro parts hnormal hsource
      rw [hparts]
      exact eq_partsOf_of_source hlexed hnormal hsource

/-- The first of two faults is reported, at its byte. -/
example : parse "é/\x7bnode\x7d/\x7d\x7b9\x7d" = .error (.unexpectedClose 10) := by decide

end Template

end TopicGate
