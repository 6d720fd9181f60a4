import TopicGate.Proofs.Audience
import TopicGate.Proofs.Topic.Engine
import TopicGate.Proofs.Topic.Lookup

/-!
# Building registries

Definitions make a registry unless one of them is at fault: its type is taken, its template is no
template, no matcher is made of the template, or its table of accesses speaks of an audience that does
not exist.  The first definition at fault decides the error, and of its faults the first in this order.
An engine of regular expressions makes a matcher of every template, unless the expression is too big.

## Main definitions
* `TopicDefinition.Fault`: what is wrong with a definition behind others.
* `FirstFault`: the fault of the first definition that has one.
* `TopicDefinition.IsWithinLimit`: the expression of a definition is not too big for an engine.

## Main statements
* `TopicDefinition.exists_fault_or_isSound`: a definition has a fault or is sound.
* `Registry.ofDefinitionsWith_eq_error_iff`: the fault that is reported.
* `Registry.ofDefinitionsWith_outcome`: when definitions make a registry with an engine, and what is
  reported otherwise.
-/

namespace TopicGate

open Steps

/-! ## §1 A single definition -/

/-- A table whose keys are names of audiences is read. -/
theorem exists_accessTable (type : String) {entries : List (String × AccessType)}
    (h : ∀ entry ∈ entries, NamesAudience entry.1) :
    ∃ table, accessTable type entries = .ok table := by
  induction entries with
  | nil => exact ⟨_, rfl⟩
  | cons entry rest ih =>
    obtain ⟨⟨a, ha⟩, hrest⟩ := List.forall_mem_cons.mp h
    obtain ⟨table, htable⟩ := ih hrest
    refine ⟨table.set a entry.2, ?_⟩
    simp [accessTable, ← ha, htable]

/-- The first key that is no name of an audience is reported. -/
theorem accessTable_append_of_unknown {type name : String} {access : AccessType}
    {before behind : List (String × AccessType)} (hbefore : ∀ entry ∈ before, NamesAudience entry.1)
    (hname : ¬NamesAudience name) :
    accessTable type (before ++ (name, access) :: behind) = .error (.unknownAudience type name) := by
  induction before with
  | nil =>
    rcases Audience.parse_cases name with ⟨a, ha, -⟩ | ⟨-, e, he⟩
    · exact absurd ⟨a, ha⟩ hname
    · rw [List.nil_append, accessTable, he]
      rfl
  | cons entry before ih =>
    obtain ⟨⟨a, ha⟩, hrest⟩ := List.forall_mem_cons.mp hbefore
    rw [List.cons_append, accessTable, ← ha, Audience.parse_name, ih hrest]
    rfl

namespace TopicDefinition

variable {ε μ : Type} {matcher : Template → Except ε μ} {definition : TopicDefinition}
  {before : List TopicDefinition}

/-- What is wrong with a definition behind the definitions `before`; a type that is taken comes
before anything else, the template before its matcher, and the matcher before the accesses. -/
inductive Fault (matcher : Template → Except ε μ) (definition : TopicDefinition)
    (before : List TopicDefinition) : CompileError ε → Prop
  | duplicateType (htaken : definition.type ∈ before.map type) :
      Fault matcher definition before (.topic (.duplicateType definition.type))
  | invalidTemplate (hfresh : definition.type ∉ before.map type) {e : TemplateError}
      (he : Template.parse definition.template = .error e) :
      Fault matcher definition before (.topic (.invalidTemplate definition.type e))
  | refused (hfresh : definition.type ∉ before.map type) {template : Template}
      (htemplate : Template.parse definition.template = .ok template) {e : ε}
      (he : matcher template = .error e) :
      Fault matcher definition before (.matcher definition.type e)
  | unknownAudience (hfresh : definition.type ∉ before.map type) {template : Template}
      (htemplate : Template.parse definition.template = .ok template) {made : μ}
      (hmade : matcher template = .ok made) {name : String}
      (hname : definition.accesses.IsFirstUnknown name) :
      Fault matcher definition before (.topic (.unknownAudience definition.type name))

/-- A definition with nothing wrong in itself. -/
structure IsSound (definition : TopicDefinition) : Prop where
  template : ∃ template, Template.parse definition.template = .ok template
  accesses : ∀ name ∈ definition.accesses.keys, NamesAudience name

/-- A matcher is made of the template, if it is one. -/
def Fits (matcher : Template → Except ε μ) (definition : TopicDefinition) : Prop :=
  ∀ template, Template.parse definition.template = .ok template → ∃ made, matcher template = .ok made

theorem exists_compileWith (h : definition.IsSound) (hfits : definition.Fits matcher) :
    ∃ compiled, definition.compileWith matcher = .ok compiled := by
  obtain ⟨template, htemplate⟩ := h.template
  obtain ⟨made, hmade⟩ := hfits template htemplate
  have hknown : ∀ entry ∈ definition.accesses.entries, NamesAudience entry.1 := fun entry hentry =>
    h.accesses entry.1 (List.mem_map_of_mem hentry)
  obtain ⟨accesses, haccesses⟩ := exists_accessTable definition.type hknown
  refine ⟨(⟨definition.type, template, definition.hashKind, accesses⟩, made), ?_⟩
  rw [compileWith_of_made htemplate hmade, haccesses]
  rfl

/-- A definition has a fault, or it is compiled wherever its type is not taken. -/
theorem exists_fault_or_isSound (matcher : Template → Except ε μ) (before : List TopicDefinition)
    (definition : TopicDefinition) :
    (∃ e, definition.Fault matcher before e) ∨
      (definition.type ∉ before.map type ∧ definition.IsSound ∧ definition.Fits matcher) := by
  by_cases hfresh : definition.type ∈ before.map type
  case pos => exact Or.inl ⟨_, .duplicateType hfresh⟩
  cases htemplate : Template.parse definition.template with
  | error e => exact Or.inl ⟨_, .invalidTemplate hfresh htemplate⟩
  | ok template =>
    cases hmatcher : matcher template with
    | error e => exact Or.inl ⟨_, .refused hfresh htemplate hmatcher⟩
    | ok made =>
      rcases definition.accesses.known_or_exists_isFirstUnknown with hknown | ⟨name, hname⟩
      · refine Or.inr ⟨hfresh, ⟨⟨template, htemplate⟩, hknown⟩, fun template' htemplate' => ?_⟩
        obtain rfl := Except.ok.inj (htemplate.symm.trans htemplate')
        exact ⟨made, hmatcher⟩
      · exact Or.inl ⟨_, .unknownAudience hfresh htemplate hmatcher hname⟩

/-- Nothing is wrong with a sound definition of a new type if a matcher is made of its template. -/
theorem IsSound.not_fault (h : definition.IsSound) (hfits : definition.Fits matcher)
    (hfresh : definition.type ∉ before.map type) (e : CompileError ε) :
    ¬definition.Fault matcher before e := by
  intro hfault
  cases hfault with
  | duplicateType htaken => exact hfresh htaken
  | invalidTemplate _ he =>
    obtain ⟨template, htemplate⟩ := h.template
    rw [htemplate] at he
    cases he
  | refused _ htemplate he =>
    obtain ⟨made, hmade⟩ := hfits _ htemplate
    rw [hmade] at he
    cases he
  | unknownAudience _ _ _ hname => exact hname.unknown (h.accesses _ hname.mem)

/-- A fault is reported of the first of some definitions, where the types of the definitions `before`
count as taken. -/
theorem Fault.compileAll_cons {e : CompileError ε} {taken : List String}
    (h : definition.Fault matcher before e) (htaken : ∀ t, t ∈ taken ↔ t ∈ before.map type)
    (rest : List TopicDefinition) :
    Registry.compileAll matcher taken (definition :: rest) = .error e := by
  rw [Registry.compileAll]
  cases h with
  | duplicateType hmem => rw [if_pos ((htaken _).mpr hmem)]
  | invalidTemplate hfresh he =>
    rw [if_neg (mt (htaken _).mp hfresh), compileWith_of_parse_eq_error he]
    rfl
  | refused hfresh htemplate he =>
    rw [if_neg (mt (htaken _).mp hfresh), compileWith_of_refused htemplate he]
    rfl
  | unknownAudience hfresh htemplate hmade hname =>
    obtain ⟨known, access, others, hentries, hknown⟩ := hname.exists_split
    rw [if_neg (mt (htaken _).mp hfresh), compileWith_of_made htemplate hmade, hentries,
      accessTable_append_of_unknown hknown hname.unknown]
    rfl

/-- A definition without a fault is sound, and a matcher is made of its template. -/
theorem not_fault_iff : (∀ e, ¬definition.Fault matcher before e) ↔
    definition.type ∉ before.map type ∧ definition.IsSound ∧ definition.Fits matcher := by
  constructor
  · intro hnone
    exact (exists_fault_or_isSound matcher before definition).resolve_left (not_exists.mpr hnone)
  · rintro ⟨hfresh, hsound, hfits⟩
    exact hsound.not_fault hfits hfresh

end TopicDefinition

/-! ## §2 The first definition at fault -/

/-- Behind the definitions `before`, the fault of the first definition that has one. -/
inductive FirstFault {ε μ : Type} (matcher : Template → Except ε μ) :
    List TopicDefinition → List TopicDefinition → CompileError ε → Prop
  | here {before rest : List TopicDefinition} {definition : TopicDefinition} {e : CompileError ε} :
      definition.Fault matcher before e → FirstFault matcher before (definition :: rest) e
  | later {before rest : List TopicDefinition} {definition : TopicDefinition} {e : CompileError ε} :
      (∀ e', ¬definition.Fault matcher before e') →
      FirstFault matcher (before ++ [definition]) rest e →
      FirstFault matcher before (definition :: rest) e

section

variable {ε μ : Type} {matcher : Template → Except ε μ} {before definitions : List TopicDefinition}
  {taken : List String} {e : CompileError ε}

/-- Behind a further definition its type is taken as well. -/
theorem taken_concat (htaken : ∀ t, t ∈ taken ↔ t ∈ before.map TopicDefinition.type)
    (definition : TopicDefinition) (t : String) :
    t ∈ definition.type :: taken ↔ t ∈ (before ++ [definition]).map TopicDefinition.type := by
  rw [List.mem_cons, htaken, List.map_append, List.mem_append, List.map_singleton,
    List.mem_singleton, or_comm]

/-- The fault of the first definition that has one is reported. -/
theorem FirstFault.compileAll (h : FirstFault matcher before definitions e)
    (htaken : ∀ t, t ∈ taken ↔ t ∈ before.map TopicDefinition.type) :
    Registry.compileAll matcher taken definitions = .error e := by
  induction h generalizing taken with
  | here hfault => exact hfault.compileAll_cons htaken _
  | @later before rest definition e hnone _ ih =>
    -- The definition itself is compiled, and its type is taken for the rest.
    obtain ⟨hfresh, hsound, hfits⟩ := TopicDefinition.not_fault_iff.mp hnone
    obtain ⟨compiled, hcompiled⟩ := TopicDefinition.exists_compileWith hsound hfits
    rw [Registry.compileAll, if_neg (mt (htaken _).mp hfresh), hcompiled,
      ih (taken_concat htaken definition)]
    rfl

/-- Definitions are compiled unless one of them is at fault. -/
theorem exists_firstFault_or_compileAll
    (htaken : ∀ t, t ∈ taken ↔ t ∈ before.map TopicDefinition.type) :
    (∃ e, FirstFault matcher before definitions e) ∨
      ∃ compiled, Registry.compileAll matcher taken definitions = .ok compiled := by
  induction definitions generalizing before taken with
  | nil => exact Or.inr ⟨[], rfl⟩
  | cons definition rest ih =>
    rcases TopicDefinition.exists_fault_or_isSound matcher before definition with
      ⟨e, hfault⟩ | ⟨hfresh, hsound, hfits⟩
    · exact Or.inl ⟨e, .here hfault⟩
    · rcases ih (taken_concat htaken definition) with ⟨e, hfault⟩ | ⟨others, hothers⟩
      · exact Or.inl ⟨e, .later (hsound.not_fault hfits hfresh) hfault⟩
      · obtain ⟨compiled, hcompiled⟩ := TopicDefinition.exists_compileWith hsound hfits
        refine Or.inr ⟨compiled :: others, ?_⟩
        rw [Registry.compileAll, if_neg (mt (htaken _).mp hfresh), hcompiled, hothers]
        rfl

/-- Definitions have no fault if they are sound, a matcher is made of each template, and their types
are distinct and new. -/
theorem not_firstFault_iff : (∀ e, ¬FirstFault matcher before definitions e) ↔
    (definitions.map TopicDefinition.type).Nodup ∧
      (∀ definition ∈ definitions, definition.type ∉ before.map TopicDefinition.type) ∧
      (∀ definition ∈ definitions, definition.IsSound) ∧
      ∀ definition ∈ definitions, definition.Fits matcher := by
  induction definitions generalizing before with
  | nil =>
    refine ⟨fun _ => ⟨List.nodup_nil, by simp, by simp, by simp⟩, fun _ e h => ?_⟩
    cases h
  | cons definition rest ih =>
    have hcons : (∀ e, ¬FirstFault matcher before (definition :: rest) e) ↔
        (∀ e, ¬definition.Fault matcher before e) ∧
          ∀ e, ¬FirstFault matcher (before ++ [definition]) rest e := by
      constructor
      · intro h
        have hnone : ∀ e, ¬definition.Fault matcher before e := fun e hfault => h e (.here hfault)
        exact ⟨hnone, fun e hfault => h e (.later hnone hfault)⟩
      · rintro ⟨hnone, hrest⟩ e h
        cases h with
        | here hfault => exact hnone e hfault
        | later _ hfault => exact hrest e hfault
    rw [hcons, TopicDefinition.not_fault_iff, ih]
    simp only [List.map_cons, List.nodup_cons, List.forall_mem_cons, List.map_append,
      List.mem_append, List.map_nil, List.mem_singleton, not_or, List.mem_map, not_exists, not_and]
    constructor
    · rintro ⟨⟨hfresh, hsound, hfits⟩, hnodup, hothers, hsounds, hall⟩
      exact ⟨⟨fun other hother => (hothers other hother).2, hnodup⟩,
        ⟨hfresh, fun other hother => (hothers other hother).1⟩, ⟨hsound, hsounds⟩, hfits, hall⟩
    · rintro ⟨⟨hnew, hnodup⟩, ⟨hfresh, hothers⟩, ⟨hsound, hsounds⟩, hfits, hall⟩
      exact ⟨⟨hfresh, hsound, hfits⟩, hnodup,
        fun other hother => ⟨hothers other hother, hnew other hother⟩, hsounds, hall⟩

/-- What is refused is the template of a definition. -/
theorem FirstFault.exists_refused {type : String} {source : ε}
    (h : FirstFault matcher before definitions (.matcher type source)) :
    ∃ definition ∈ definitions, ∃ template,
      Template.parse definition.template = .ok template ∧ matcher template = .error source := by
  generalize herror : CompileError.matcher type source = e at h
  induction h with
  | here hfault =>
    subst herror
    cases hfault with
    | refused _ htemplate he => exact ⟨_, List.mem_cons_self, _, htemplate, he⟩
  | later _ _ ih =>
    obtain ⟨definition, hmem, hrefused⟩ := ih herror
    exact ⟨definition, List.mem_cons_of_mem _ hmem, hrefused⟩

/-- Where a matcher is made of each template, matchers make no difference to the fault. -/
theorem FirstFault.without_matchers (h : FirstFault matcher before definitions e)
    (hfits : ∀ definition ∈ definitions, definition.Fits matcher) :
    ∃ source, e = .topic source ∧ FirstFault noMatcher before definitions (.topic source) := by
  have hany : ∀ definition : TopicDefinition, definition.Fits noMatcher := fun _ _ _ => ⟨(), rfl⟩
  induction h with
  | here hfault =>
    cases hfault with
    | duplicateType htaken => exact ⟨_, rfl, .here (.duplicateType htaken)⟩
    | invalidTemplate hfresh he => exact ⟨_, rfl, .here (.invalidTemplate hfresh he)⟩
    | refused _ htemplate he =>
      -- This is the only fault that matchers add.
      obtain ⟨made, hmade⟩ := hfits _ List.mem_cons_self _ htemplate
      rw [hmade] at he
      cases he
    | unknownAudience hfresh htemplate _ hname =>
      obtain ⟨made, hmade⟩ := hany _ _ htemplate
      exact ⟨_, rfl, .here (.unknownAudience hfresh htemplate hmade hname)⟩
  | later hnone _ ih =>
    obtain ⟨hfresh, hsound, -⟩ := TopicDefinition.not_fault_iff.mp hnone
    obtain ⟨source, rfl, hlater⟩ := ih fun other hother => hfits other (List.mem_cons_of_mem _ hother)
    exact ⟨source, rfl, .later (hsound.not_fault (hany _) hfresh) hlater⟩

end

/-! ## §3 Registries -/

namespace Registry

variable {ε μ : Type} {matcher : Template → Except ε μ} {company : String}
  {definitions : List TopicDefinition}

/-- A registry is built unless its definitions are not compiled. -/
theorem ofDefinitionsWith_eq_error_iff_compileAll {e : CompileError ε} :
    ofDefinitionsWith matcher company definitions = .error e ↔
      compileAll matcher [] definitions = .error e := by
  unfold ofDefinitionsWith
  split
  · next compiled hcompiled => simp [hcompiled]
  · next e' he' => simp [he']

/-- The fault of the first definition that has one is reported, whatever fault there is. -/
theorem ofDefinitionsWith_eq_error_iff {e : CompileError ε} :
    ofDefinitionsWith matcher company definitions = .error e ↔ FirstFault matcher [] definitions e := by
  rw [ofDefinitionsWith_eq_error_iff_compileAll]
  constructor
  · intro h
    have hcases : (∃ e, FirstFault matcher [] definitions e) ∨
        ∃ compiled, compileAll matcher [] definitions = .ok compiled :=
      exists_firstFault_or_compileAll fun _ => Iff.rfl
    rcases hcases with ⟨e', hfault⟩ | ⟨compiled, hcompiled⟩
    · have he' : compileAll matcher [] definitions = .error e' := hfault.compileAll fun _ => Iff.rfl
      obtain rfl := Except.error.inj (h.symm.trans he')
      exact hfault
    · rw [hcompiled] at h
      cases h
  · intro h
    exact h.compileAll fun _ => Iff.rfl

theorem exists_ofDefinitionsWith_iff :
    (∃ registry matchers, ofDefinitionsWith matcher company definitions = .ok (registry, matchers)) ↔
      (definitions.map TopicDefinition.type).Nodup ∧
        (∀ definition ∈ definitions, definition.IsSound) ∧
        ∀ definition ∈ definitions, definition.Fits matcher := by
  have hfaults : (∃ registry matchers,
      ofDefinitionsWith matcher company definitions = .ok (registry, matchers)) ↔
        ∀ e, ¬FirstFault matcher [] definitions e := by
    simp only [← @ofDefinitionsWith_eq_error_iff _ _ matcher company definitions]
    rcases ofDefinitionsWith matcher company definitions with e | ⟨registry, matchers⟩ <;> simp
  rw [hfaults, not_firstFault_iff]
  simp

/-- The fault that is reported where no matchers are made. -/
theorem ofDefinitions_eq_error_iff {e : TopicError} :
    ofDefinitions company definitions = .error e ↔ FirstFault noMatcher [] definitions (.topic e) := by
  rw [← @ofDefinitionsWith_eq_error_iff _ _ noMatcher company definitions, ofDefinitions]
  cases ofDefinitionsWith noMatcher company definitions with
  | ok built => simp [Except.map]
  | error source =>
    cases source with
    | topic source => simp [Except.map, CompileError.topicError]
    | matcher type source => exact source.elim

theorem exists_ofDefinitions_iff : (∃ registry, ofDefinitions company definitions = .ok registry) ↔
    (definitions.map TopicDefinition.type).Nodup ∧
      ∀ definition ∈ definitions, definition.IsSound := by
  simp only [ofDefinitions_eq_ok_iff_exists, exists_ofDefinitionsWith_iff]
  -- No matcher is ever refused.
  simp [TopicDefinition.Fits, noMatcher]

/-- Where a matcher is made of each template, matchers make no difference to the registry. -/
theorem map_fst_ofDefinitionsWith (hfits : ∀ definition ∈ definitions, definition.Fits matcher) :
    (ofDefinitionsWith matcher company definitions).map Prod.fst =
      (ofDefinitions company definitions).mapError CompileError.topic := by
  cases hbuilt : ofDefinitionsWith matcher company definitions with
  | ok built =>
    obtain ⟨registry, matchers⟩ := built
    obtain ⟨hcompany, hcompiled, -⟩ := ofDefinitionsWith_eq_ok_iff.mp hbuilt
    rw [ofDefinitions_eq_ok_iff.mpr ⟨hcompany, hcompiled⟩]
    rfl
  | error e =>
    obtain ⟨source, rfl, hfault⟩ :=
      (ofDefinitionsWith_eq_error_iff.mp hbuilt).without_matchers hfits
    rw [ofDefinitions_eq_error_iff.mpr hfault]
    rfl

end Registry

/-! ## §4 Engines -/

section

variable {μ : Type} {engine : Engine μ} {accepts : μ → String → Bool} {company : String}

/-- The expression of the template, if it is one, is not too big for an engine. -/
def TopicDefinition.IsWithinLimit (engine : Engine μ) (company : String)
    (definition : TopicDefinition) : Prop :=
  ∀ template, Template.parse definition.template = .ok template →
    ∀ limit, engine (template.expression company) ≠ .error (.tooBig limit)

/-- An engine makes a matcher of every template within its limit. -/
theorem TopicDefinition.fits_matcher_iff (hengine : engine.IsFaithful accepts)
    {definition : TopicDefinition} :
    definition.Fits (engine.matcher company) ↔ definition.IsWithinLimit engine company := by
  constructor
  · intro hfits template htemplate limit hbig
    obtain ⟨made, hmade⟩ := hfits template htemplate
    have hsame : Except.ok made = Except.error (EngineError.tooBig limit) := hmade.symm.trans hbig
    cases hsame
  · intro hlimit template htemplate
    cases hmatcher : engine.matcher company template with
    | ok made => exact ⟨made, rfl⟩
    | error e =>
      obtain ⟨limit, rfl⟩ := hengine.exists_tooBig htemplate hmatcher
      exact absurd hmatcher (hlimit template htemplate limit)

/-- The matchers of compiled definitions accept what the patterns accept. -/
theorem Matched.accepts_eq (hengine : engine.IsFaithful accepts) {definitions : List TopicDefinition}
    {patterns : List TopicPattern} {matchers : List μ} (hcompiled : Compiled definitions patterns)
    (hmatched : Matched (engine.matcher company) patterns matchers) :
    List.Forall₂ (fun pattern made => engine (pattern.template.expression company) = .ok made ∧
      ∀ text, accepts made text = pattern.accepts company text) patterns matchers := by
  induction hmatched generalizing definitions with
  | nil => exact .nil
  | cons hmade _ ih =>
    cases hcompiled with
    | cons hcompile hcompiled =>
      have hparse := TopicDefinition.parse_template hcompile
      exact .cons ⟨hmade, hengine.accepts_eq hparse hmade⟩ (ih hcompiled)

end

namespace Registry

/-- **When definitions make a registry.**  With an engine they do exactly if their types are distinct,
their templates are templates within the limit of the engine, and their tables of accesses speak of
audiences only.  The registry then holds each definition compiled, in their order, with a matcher that
accepts what the pattern accepts.  Otherwise the first definition at fault is reported.  No company, no
text and no name of a segment is malformed for an engine: what it refuses is too big, and as long as
nothing is, the outcome is what it is without matchers. -/
theorem ofDefinitionsWith_outcome {μ : Type} {engine : Engine μ} {accepts : μ → String → Bool}
    (hengine : engine.IsFaithful accepts) (company : String) (definitions : List TopicDefinition) :
    let built := ofDefinitionsWith (engine.matcher company) company definitions
    ((∃ registry matchers, built = .ok (registry, matchers)) ↔
      (definitions.map TopicDefinition.type).Nodup ∧
        (∀ definition ∈ definitions, definition.IsSound) ∧
        ∀ definition ∈ definitions, definition.IsWithinLimit engine company) ∧
    (∀ registry matchers, built = .ok (registry, matchers) →
      registry.company = company ∧ Compiled definitions registry.topics ∧
        List.Forall₂ (fun pattern made => engine (pattern.template.expression company) = .ok made ∧
          ∀ text, accepts made text = pattern.accepts company text) registry.topics matchers) ∧
    (∀ e, built = .error e ↔ FirstFault (engine.matcher company) [] definitions e) ∧
    (∀ type e, built = .error (.matcher type e) → ∃ limit, e = .tooBig limit) ∧
    ((∀ definition ∈ definitions, definition.IsWithinLimit engine company) →
      built.map Prod.fst = (ofDefinitions company definitions).mapError CompileError.topic) ∧
    ((∃ registry, ofDefinitions company definitions = .ok registry) ↔
      (definitions.map TopicDefinition.type).Nodup ∧
        ∀ definition ∈ definitions, definition.IsSound) ∧
    ∀ e, ofDefinitions company definitions = .error e ↔ FirstFault noMatcher [] definitions (.topic e) := by
  intro built
  have hlimits : (∀ definition ∈ definitions, definition.Fits (engine.matcher company)) ↔
      ∀ definition ∈ definitions, definition.IsWithinLimit engine company := by
    simp only [TopicDefinition.fits_matcher_iff hengine]
  refine ⟨?_, ?_, fun e => ofDefinitionsWith_eq_error_iff, ?_, ?_, exists_ofDefinitions_iff,
    fun e => ofDefinitions_eq_error_iff⟩
  · rw [← hlimits]
    exact exists_ofDefinitionsWith_iff
  · intro registry matchers hbuilt
    obtain ⟨hcompany, hcompiled, hmatched⟩ := ofDefinitionsWith_eq_ok_iff.mp hbuilt
    exact ⟨hcompany, hcompiled, Matched.accepts_eq hengine hcompiled hmatched⟩
  · -- What is refused is a template, whose expression is well formed.
    intro type e hbuilt
    obtain ⟨definition, -, template, htemplate, he⟩ :=
      (ofDefinitionsWith_eq_error_iff.mp hbuilt).exists_refused
    exact hengine.exists_tooBig htemplate he
  · rw [← hlimits]
    exact map_fst_ofDefinitionsWith

/-! ### A reception -/

def roomTemplate : Template where
  parts := [.field .company, .literal "/[", .field (.segment "room"), .literal "]+/",
    .field .company]
  distinct := by decide

def roomNumber : TopicDefinition :=
  { type := "room", template := "\x7bcompany\x7d/[\x7broom\x7d]+/\x7bcompany\x7d"
    accesses := TextMap.ofList [("driver", .subscribe)] }

/-- A call that is wrong in two ways. -/
def brokenCall : TopicDefinition :=
  { type := "call", template := "\x7bcompany", accesses := TextMap.ofList [("courier", .publish)] }

/-- Rooms make a registry with an engine that reads long expressions.  With a broken call and a
repeated type behind them they do not, and the template of the call is reported.  An engine that reads
only short ones refuses the expression of the rooms. -/
theorem ofDefinitionsWith_outcome_reception :
    (limitedEngine 100).IsFaithful Expression.accepts ∧
    (∃ registry matchers, ofDefinitionsWith ((limitedEngine 100).matcher "a.b(c") "a.b(c" [roomNumber] =
      .ok (registry, matchers)) ∧
    ofDefinitionsWith ((limitedEngine 100).matcher "a.b(c") "a.b(c" [roomNumber, brokenCall, roomNumber] =
      .error (.topic (.invalidTemplate "call" (.unclosedPlaceholder 0))) ∧
    ofDefinitionsWith ((limitedEngine 10).matcher "a.b(c") "a.b(c" [roomNumber] =
      .error (.matcher "room" (.tooBig 10)) := by
  have hparse : Template.parse roomNumber.template = .ok roomTemplate := by rfl
  have hroom : roomNumber.IsSound := by
    refine ⟨⟨_, hparse⟩, fun name hname => ⟨.driver, ?_⟩⟩
    exact (List.mem_singleton.mp hname).symm
  have hread : ∀ limit, (limitedEngine limit).matcher "a.b(c" roomTemplate =
      if limit < 32 then .error (.tooBig limit) else .ok (roomTemplate.tree "a.b(c") := by
    intro limit
    have hlength : (roomTemplate.tree "a.b(c").text.length = 32 := by decide +kernel
    rw [Engine.matcher_eq, limitedEngine_text limit (Template.isWellFormed_tree hparse "a.b(c"),
      hlength]
  have hfits : roomNumber.Fits ((limitedEngine 100).matcher "a.b(c") := by
    intro template htemplate
    obtain rfl := Except.ok.inj (hparse.symm.trans htemplate)
    exact ⟨_, hread 100⟩
  have hfaithful := isFaithful_limitedEngine 100
  obtain ⟨hok, -⟩ := ofDefinitionsWith_outcome hfaithful "a.b(c" [roomNumber]
  obtain ⟨-, -, herror, -⟩ := ofDefinitionsWith_outcome hfaithful "a.b(c"
    [roomNumber, brokenCall, roomNumber]
  obtain ⟨-, -, hshort, -⟩ := ofDefinitionsWith_outcome (isFaithful_limitedEngine 10) "a.b(c"
    [roomNumber]
  refine ⟨hfaithful, hok.mpr ⟨by decide, by simpa using hroom, ?_⟩, (herror _).mpr ?_,
    (hshort _).mpr (.here (.refused (by decide) hparse (hread 10)))⟩
  · simpa using (TopicDefinition.fits_matcher_iff hfaithful).mp hfits
  · exact .later (hroom.not_fault hfits (by decide)) (.here (.invalidTemplate (by decide) (by decide)))

end Registry

end TopicGate
