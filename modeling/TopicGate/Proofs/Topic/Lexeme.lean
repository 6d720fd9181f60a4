import TopicGate.Proofs.Topic.Language
import Mathlib.Data.List.Nodup

/-!
# Lexemes of templates

Every text can be read in one way as characters that are no braces, names between braces, and braces
without a partner.  Behind what was read before it, a brace may offend: it has no partner, or what
stands between it and its partner is no name, or is the name of a segment that was named before.

## Main definitions
* `IsLexed`: the reading of a text.
* `IsGrammatical`: what a template is written from.
* `Offends`: what is wrong with a brace.

## Main statements
* `exists_isLexed`, `IsLexed.unique`, `IsLexed.flatMap_text`: every text has one reading, which loses
  nothing.
* `IsLexed.isGrammatical`, `IsGrammatical.isClean`: a reading is grammatical exactly if nothing in it
  offends.
-/

namespace TopicGate

/-! ## §1 Lexemes -/

/-- What a text consists of, as far as braces go. -/
inductive Lexeme where
  /-- A character that is no brace. -/
  | char (c : Char)
  /-- A name between braces. -/
  | group (name : List Char)
  /-- A closing brace that was never opened. -/
  | close
  /-- An opening brace that is never closed, with all that follows it. -/
  | unclosed (rest : List Char)

def Lexeme.text : Lexeme → List Char
  | char c => [c]
  | group name => '\x7b' :: (name ++ ['\x7d'])
  | close => ['\x7d']
  | unclosed rest => '\x7b' :: rest

/-- The reading of a text: an opening brace goes with the next closing one. -/
inductive IsLexed : List Char → List Lexeme → Prop
  | nil : IsLexed [] []
  | char {c : Char} {text : List Char} {lexemes : List Lexeme} :
      c ≠ '\x7b' → c ≠ '\x7d' → IsLexed text lexemes → IsLexed (c :: text) (.char c :: lexemes)
  | group {name text : List Char} {lexemes : List Lexeme} :
      '\x7d' ∉ name → IsLexed text lexemes →
      IsLexed ('\x7b' :: (name ++ '\x7d' :: text)) (.group name :: lexemes)
  | close {text : List Char} {lexemes : List Lexeme} :
      IsLexed text lexemes → IsLexed ('\x7d' :: text) (.close :: lexemes)
  | unclosed {rest : List Char} : '\x7d' ∉ rest → IsLexed ('\x7b' :: rest) [.unclosed rest]

/-- Every text has a reading. -/
theorem exists_isLexed (text : List Char) : ∃ lexemes, IsLexed text lexemes := by
  induction hlength : text.length using Nat.strongRecOn generalizing text with
  | _ n ih =>
    cases text with
    | nil => exact ⟨[], .nil⟩
    | cons c text =>
      have ih : ∀ rest : List Char, rest.length ≤ text.length → ∃ lexemes, IsLexed rest lexemes := by
        intro rest hrest
        apply ih rest.length _ rest rfl
        simp only [List.length_cons] at hlength
        omega
      -- An opening brace goes with the next closing one, if there is one.
      by_cases hopen : c = '\x7b'
      · subst hopen
        by_cases hclose : '\x7d' ∈ text
        · obtain ⟨name, rest, rfl, hname⟩ := List.eq_append_cons_of_mem hclose
          obtain ⟨lexemes, h⟩ := ih rest (by simp; omega)
          exact ⟨_, .group hname h⟩
        · exact ⟨_, .unclosed hclose⟩
      · obtain ⟨lexemes, h⟩ := ih text (Nat.le_refl _)
        by_cases hclose : c = '\x7d'
        · subst hclose
          exact ⟨_, .close h⟩
        · exact ⟨_, .char hopen hclose h⟩

/-- No text has two readings. -/
theorem IsLexed.unique {text : List Char} {lexemes lexemes' : List Lexeme}
    (h : IsLexed text lexemes) (h' : IsLexed text lexemes') : lexemes = lexemes' := by
  induction h generalizing lexemes' with
  | nil =>
    cases h'
    rfl
  | char hopen hclose _ ih =>
    cases h' with
    | char _ _ h' => rw [ih h']
    | group => exact absurd rfl hopen
    | close => exact absurd rfl hclose
    | unclosed => exact absurd rfl hopen
  | @group name text lexemes hname _ ih =>
    -- The text is no pattern that the rules can be matched with, so it gets a name of its own.
    generalize htext : '\x7b' :: (name ++ '\x7d' :: text) = whole at h'
    cases h' with
    | nil => cases htext
    | char hopen => exact absurd (List.cons.inj htext).1.symm hopen
    | group hname' h' =>
      obtain ⟨rfl, rfl⟩ := append_inj_of_notMem hname hname' (List.cons.inj htext).2
      rw [ih h']
    | close => exact absurd (List.cons.inj htext).1 (by decide)
    | unclosed hrest =>
      obtain rfl := (List.cons.inj htext).2
      exact absurd (by simp) hrest
  | close _ ih =>
    cases h' with
    | char _ hclose => exact absurd rfl hclose
    | close h' => rw [ih h']
  | @unclosed rest hrest =>
    generalize htext : '\x7b' :: rest = whole at h'
    cases h' with
    | nil => cases htext
    | char hopen => exact absurd (List.cons.inj htext).1.symm hopen
    | group =>
      obtain rfl := (List.cons.inj htext).2
      exact absurd (by simp) hrest
    | close => exact absurd (List.cons.inj htext).1 (by decide)
    | unclosed => rw [(List.cons.inj htext).2]

/-- A reading loses nothing. -/
theorem IsLexed.flatMap_text {text : List Char} {lexemes : List Lexeme}
    (h : IsLexed text lexemes) : lexemes.flatMap Lexeme.text = text := by
  induction h with
  | nil => rfl
  | char _ _ _ ih | group _ _ ih | close _ ih => simp [Lexeme.text, ih]
  | unclosed => simp [Lexeme.text]

/-! ## §2 Names -/

/-- An ASCII letter. -/
def IsLetter (c : Char) : Prop := ('A' ≤ c ∧ c ≤ 'Z') ∨ ('a' ≤ c ∧ c ≤ 'z')

/-- A letter or an underscore, and then letters, digits and underscores. -/
def IsIdentifier (name : List Char) : Prop :=
  ∃ first rest, name = first :: rest ∧ (IsLetter first ∨ first = '_') ∧
    ∀ c ∈ rest, IsTokenSymbol c ∨ c = '_'

theorem isIdentifierStart_eq_true_iff {c : Char} :
    Template.isIdentifierStart c = true ↔ IsLetter c ∨ c = '_' := by
  have hclasses : Template.isIdentifierStart c =
      ((decide (c.val ≥ 'A'.val ∧ c.val ≤ 'Z'.val) ||
        (decide (c.val ≥ 'a'.val) && decide (c.val ≤ 'z'.val))) || c == '_') := rfl
  rw [hclasses]
  simp only [IsLetter, Bool.or_eq_true, Bool.and_eq_true, decide_eq_true_eq, Char.le_def, ge_iff_le,
    beq_iff_eq]

theorem isIdentifierRest_eq_true_iff {c : Char} :
    Template.isIdentifierRest c = true ↔ IsTokenSymbol c ∨ c = '_' := by
  have hclasses : Template.isIdentifierRest c = (isTokenChar c || c == '_') := rfl
  rw [hclasses, Bool.or_eq_true, isTokenChar_eq_true_iff, beq_iff_eq]

theorem isIdentifier_eq_true_iff {name : List Char} :
    Template.isIdentifier name = true ↔ IsIdentifier name := by
  cases name with
  | nil => simp [Template.isIdentifier, IsIdentifier]
  | cons first rest =>
    simp [Template.isIdentifier, IsIdentifier, isIdentifierStart_eq_true_iff,
      isIdentifierRest_eq_true_iff]

theorem IsIdentifier.ne_nil {name : List Char} (h : IsIdentifier name) : name ≠ [] := by
  obtain ⟨first, rest, rfl, -⟩ := h
  exact List.cons_ne_nil first rest

/-- An identifier has only characters that continue one. -/
theorem IsIdentifier.notMem {name : List Char} (h : IsIdentifier name) {c : Char}
    (hc : Template.isIdentifierRest c = false) : c ∉ name := by
  have hstart : Template.isIdentifierStart c = false := by
    simp_all [Template.isIdentifierStart, Template.isIdentifierRest, Char.isAlphanum]
  rw [← isIdentifier_eq_true_iff] at h
  cases name with
  | nil => exact List.not_mem_nil
  | cons first rest =>
    simp only [Template.isIdentifier, Bool.and_eq_true, List.all_eq_true] at h
    rw [List.mem_cons, not_or]
    constructor
    · rintro rfl
      exact absurd h.1 (by simp [hstart])
    · intro hmem
      exact absurd (h.2 _ hmem) (by simp [hc])

/-- Names with a meaning of their own, which a template may repeat. -/
def wellKnownNames : List String := ["company", "audience", "peer", "identityToken"]

/-- Every other name is that of a segment. -/
theorem segmentName?_ofName (name : String) :
    (Placeholder.ofName name).segmentName? = if name ∈ wellKnownNames then none else some name := by
  unfold Placeholder.ofName wellKnownNames
  split_ifs <;> simp_all [Placeholder.segmentName?]

@[simp] theorem name_ofName (name : String) : (Placeholder.ofName name).name = name := by
  unfold Placeholder.ofName
  split_ifs <;> simp_all [Placeholder.name]

/-- The segment that a lexeme names. -/
def Lexeme.segment? : Lexeme → Option String
  | group name => if String.ofList name ∈ wellKnownNames then none else some (String.ofList name)
  | _ => none

theorem Lexeme.segment?_group_eq_some_iff {name : List Char} {segment : String} :
    (group name).segment? = some segment ↔ segment.toList = name ∧ segment ∉ wellKnownNames := by
  simp only [segment?]
  split
  · next hknown =>
    simp only [reduceCtorEq, false_iff, not_and, not_not]
    rintro rfl
    simpa using hknown
  · next hknown =>
    rw [Option.some.injEq]
    constructor
    · rintro rfl
      exact ⟨String.toList_ofList, hknown⟩
    · rintro ⟨rfl, -⟩
      exact String.ofList_toList

/-- The segments that lexemes name, in order. -/
def Lexeme.segments (lexemes : List Lexeme) : List String := lexemes.filterMap Lexeme.segment?

/-! ## §3 What is in order, and what offends -/

/-- What a template may be written from. -/
def Lexeme.IsProper : Lexeme → Prop
  | char c => c ≠ '\x7b' ∧ c ≠ '\x7d'
  | group name => IsIdentifier name
  | close | unclosed _ => False

/-- Lexemes that make a template: no segment is named twice. -/
structure IsGrammatical (lexemes : List Lexeme) : Prop where
  proper : ∀ lexeme ∈ lexemes, lexeme.IsProper
  distinct : (Lexeme.segments lexemes).Nodup

/-- The length of a text in UTF-8 bytes. -/
def byteLength (text : List Char) : Nat := (String.ofList text).utf8ByteSize

@[simp] theorem byteLength_nil : byteLength [] = 0 := rfl

@[simp] theorem byteLength_cons (c : Char) (text : List Char) :
    byteLength (c :: text) = c.utf8Size + byteLength text := by
  rw [byteLength, String.ofList_cons, String.utf8ByteSize_append, String.utf8ByteSize_singleton]
  rfl

@[simp] theorem byteLength_append (text rest : List Char) :
    byteLength (text ++ rest) = byteLength text + byteLength rest := by
  rw [byteLength, String.ofList_append, String.utf8ByteSize_append]
  rfl

/-- What is wrong with a brace behind the lexemes `before`.  A brace that is no part of a group, or
of an empty one, is reported with its place, and any other group with the text between the
braces. -/
inductive Offends (before : List Lexeme) : Lexeme → TemplateError → Prop
  | unclosed {rest : List Char} :
      Offends before (.unclosed rest)
        (.unclosedPlaceholder (byteLength (before.flatMap Lexeme.text)))
  | close : Offends before .close (.unexpectedClose (byteLength (before.flatMap Lexeme.text)))
  | empty : Offends before (.group []) (.emptyPlaceholder (byteLength (before.flatMap Lexeme.text)))
  | invalid {name : List Char} : name ≠ [] → ¬IsIdentifier name →
      Offends before (.group name) (.invalidPlaceholder (String.ofList name))
  | duplicate {name : List Char} : IsIdentifier name → String.ofList name ∉ wellKnownNames →
      Lexeme.group name ∈ before →
      Offends before (.group name) (.duplicateSegment (String.ofList name))

/-- The text of a group that does not offend is a name. -/
theorem isIdentifier_of_clean {done : List Lexeme} {name : List Char}
    (h : ∀ e, ¬Offends done (.group name) e) : IsIdentifier name := by
  -- Nothing at all between the braces offends in another way.
  by_contra hname
  by_cases hempty : name = []
  · subst hempty
    exact h _ .empty
  · exact h _ (.invalid hempty hname)

/-- Behind `done`, none of the lexemes offends. -/
def IsClean (done lexemes : List Lexeme) : Prop :=
  ∀ before lexeme behind e, lexemes = before ++ lexeme :: behind → ¬Offends (done ++ before) lexeme e

theorem isClean_nil (done : List Lexeme) : IsClean done [] := by
  intro before lexeme behind e h
  simp at h

theorem isClean_cons_iff {done lexemes : List Lexeme} {lexeme : Lexeme} :
    IsClean done (lexeme :: lexemes) ↔
      (∀ e, ¬Offends done lexeme e) ∧ IsClean (done ++ [lexeme]) lexemes := by
  constructor
  · intro h
    refine ⟨fun e => ?_, fun before other behind e hsplit => ?_⟩
    · simpa using h [] lexeme lexemes e rfl
    · simpa using h (lexeme :: before) other behind e (by rw [hsplit]; rfl)
  · rintro ⟨hfirst, hrest⟩ before other behind e hsplit
    cases before with
    | nil =>
      obtain ⟨rfl, -⟩ := List.cons.inj hsplit
      simpa using hfirst e
    | cons first before =>
      obtain ⟨rfl, hothers⟩ := List.cons.inj hsplit
      simpa using hrest before other behind e hothers

/-- Lexemes are clean, or one of them is the first to offend. -/
theorem isClean_or_offends (done lexemes : List Lexeme) :
    IsClean done lexemes ∨ ∃ before lexeme behind e, lexemes = before ++ lexeme :: behind ∧
      IsClean done before ∧ Offends (done ++ before) lexeme e := by
  induction lexemes generalizing done with
  | nil => exact Or.inl (isClean_nil done)
  | cons first lexemes ih =>
    by_cases hfirst : ∃ e, Offends done first e
    · obtain ⟨e, he⟩ := hfirst
      exact Or.inr ⟨[], first, lexemes, e, rfl, isClean_nil done, by simpa using he⟩
    · have hfirst : ∀ e, ¬Offends done first e := not_exists.mp hfirst
      rcases ih (done ++ [first]) with hclean | ⟨before, lexeme, behind, e, rfl, hclean, he⟩
      · exact Or.inl (isClean_cons_iff.mpr ⟨hfirst, hclean⟩)
      · refine Or.inr ⟨first :: before, lexeme, behind, e, rfl, ?_, by simpa using he⟩
        exact isClean_cons_iff.mpr ⟨hfirst, hclean⟩

theorem mem_segments_iff {lexemes : List Lexeme} {name : String} :
    name ∈ Lexeme.segments lexemes ↔
      Lexeme.group name.toList ∈ lexemes ∧ name ∉ wellKnownNames := by
  rw [Lexeme.segments, List.mem_filterMap]
  constructor
  · rintro ⟨lexeme, hmem, hname⟩
    cases lexeme with
    | group text =>
      obtain ⟨rfl, hknown⟩ := Lexeme.segment?_group_eq_some_iff.mp hname
      exact ⟨hmem, hknown⟩
    | char | close | unclosed => cases hname
  · rintro ⟨hmem, hknown⟩
    exact ⟨_, hmem, Lexeme.segment?_group_eq_some_iff.mpr ⟨rfl, hknown⟩⟩

theorem IsGrammatical.concat {lexemes : List Lexeme} {lexeme : Lexeme}
    (h : IsGrammatical lexemes) (hproper : lexeme.IsProper)
    (hfresh : ∀ name ∈ lexeme.segment?, name ∉ Lexeme.segments lexemes) :
    IsGrammatical (lexemes ++ [lexeme]) where
  proper := by
    intro other hother
    rcases List.mem_append.mp hother with hother | hother
    · exact h.proper other hother
    · obtain rfl := List.mem_singleton.mp hother
      exact hproper
  distinct := by
    cases hname : lexeme.segment? with
    | none => simpa [Lexeme.segments, hname] using h.distinct
    | some name =>
      have hnames : Lexeme.segments (lexemes ++ [lexeme]) = Lexeme.segments lexemes ++ [name] := by
        simp [Lexeme.segments, hname]
      rw [hnames, List.nodup_append]
      refine ⟨h.distinct, List.nodup_singleton name, ?_⟩
      rintro other hother _ hmem rfl
      exact hfresh name hname (List.mem_singleton.mp hmem ▸ hother)

/-- A reading without offence is grammatical. -/
theorem IsLexed.isGrammatical {text : List Char} {done lexemes : List Lexeme}
    (h : IsLexed text lexemes) (hclean : IsClean done lexemes) (hdone : IsGrammatical done) :
    IsGrammatical (done ++ lexemes) := by
  induction h generalizing done with
  | nil => simpa using hdone
  | char hopen hclose _ ih =>
    obtain ⟨-, hclean⟩ := isClean_cons_iff.mp hclean
    simpa using ih hclean (hdone.concat ⟨hopen, hclose⟩ (by simp [Lexeme.segment?]))
  | @group name _ _ _ _ ih =>
    obtain ⟨hgroup, hclean⟩ := isClean_cons_iff.mp hclean
    have hname := isIdentifier_of_clean hgroup
    -- A segment that was named before would be a duplicate.
    have hfresh : ∀ segment ∈ (Lexeme.group name).segment?, segment ∉ Lexeme.segments done := by
      intro segment hsegment hmem
      obtain ⟨rfl, hknown⟩ := Lexeme.segment?_group_eq_some_iff.mp hsegment
      apply hgroup _ (.duplicate hname _ (mem_segments_iff.mp hmem).1)
      rwa [String.ofList_toList]
    simpa using ih hclean (hdone.concat hname hfresh)
  | close => exact absurd .close ((isClean_cons_iff.mp hclean).1 _)
  | unclosed => exact absurd .unclosed ((isClean_cons_iff.mp hclean).1 _)

/-- In what is grammatical nothing offends. -/
theorem IsGrammatical.isClean {lexemes : List Lexeme} (h : IsGrammatical lexemes) :
    IsClean [] lexemes := by
  rintro before lexeme behind e rfl hoffends
  have hproper : lexeme.IsProper := h.proper lexeme (by simp)
  cases hoffends with
  | unclosed | close => exact hproper
  | empty => exact hproper.ne_nil rfl
  | invalid _ hname => exact hname hproper
  | @duplicate name _ hknown hmem =>
    -- The name is among the segments before and once more here.
    have hbefore : String.ofList name ∈ Lexeme.segments before :=
      mem_segments_iff.mpr ⟨by simpa using hmem, hknown⟩
    have hdistinct := h.distinct
    simp only [Lexeme.segments, List.filterMap_append, List.filterMap_cons, Lexeme.segment?,
      if_neg hknown] at hdistinct
    exact (List.nodup_append.mp hdistinct).2.2 _ hbefore _ List.mem_cons_self rfl

/-- What is grammatical is read as it was written. -/
theorem isLexed_of_isProper {lexemes : List Lexeme} (h : ∀ lexeme ∈ lexemes, lexeme.IsProper) :
    IsLexed (lexemes.flatMap Lexeme.text) lexemes := by
  induction lexemes with
  | nil => exact .nil
  | cons lexeme lexemes ih =>
    obtain ⟨hproper, hothers⟩ := List.forall_mem_cons.mp h
    cases lexeme with
    | char c => exact .char hproper.1 hproper.2 (ih hothers)
    | group name => simpa [Lexeme.text] using IsLexed.group (hproper.notMem (by decide)) (ih hothers)
    | close | unclosed => exact hproper.elim

/-- What is written from proper lexemes has no other reading. -/
theorem IsLexed.eq_of_isProper {text : List Char} {lexemes others : List Lexeme}
    (h : IsLexed text lexemes) (hproper : ∀ lexeme ∈ others, lexeme.IsProper)
    (htext : text = others.flatMap Lexeme.text) : others = lexemes := by
  subst htext
  exact (isLexed_of_isProper hproper).unique h

end TopicGate
