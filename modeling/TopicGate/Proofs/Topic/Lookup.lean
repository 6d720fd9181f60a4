import TopicGate.Proofs.Steps
import TopicGate.Proofs.Topic.Registry

/-!
# Lookup

A registry holds the compiled definitions in the order they are declared in.  The topic belongs to
the first of them that takes it, and every way to ask the registry about a topic speaks of this
pattern: the lookup, the type, and the pattern that the type names.

## Main definitions
* `Compiled`: patterns that are the compiled definitions, one for each.
* `Matched`: patterns with the matchers that are made of their templates.
* `Registry.Takes`: a pattern takes a topic.
* `Registry.IsFirst`: the first pattern that takes a topic, and its place.

## Main statements
* `Registry.ofDefinitions_eq_ok_iff`, `ofDefinitionsWith_eq_ok_iff`: the registry of a list of
  definitions, without matchers and with them.
* `Registry.lookup_eq_some_iff`: what is found is the first pattern that takes the topic.
* `Registry.lookup_first_declared`: the answers of a registry about a topic.
-/

namespace TopicGate

/-! ## §1 The registry of a list of definitions -/

/-- Each pattern is the compiled definition in its place. -/
def Compiled (definitions : List TopicDefinition) (patterns : List TopicPattern) : Prop :=
  List.Forall₂ (fun definition pattern => definition.compile = .ok pattern) definitions patterns

namespace TopicDefinition

variable {ε μ : Type} {matcher : Template → Except ε μ} {definition : TopicDefinition}
  {pattern : TopicPattern} {made : μ}

theorem compileWith_of_parse_eq_error {e : TemplateError}
    (h : Template.parse definition.template = .error e) :
    definition.compileWith matcher = .error (.topic (.invalidTemplate definition.type e)) := by
  rw [compileWith, h]
  rfl

theorem compileWith_of_refused {template : Template} {e : ε}
    (h : Template.parse definition.template = .ok template) (he : matcher template = .error e) :
    definition.compileWith matcher = .error (.matcher definition.type e) := by
  simp only [compileWith, h, Steps.mapError_ok, bind, Except.bind, he, Steps.mapError_error]

/-- Where a matcher is made, only the accesses are left to read. -/
theorem compileWith_of_made {template : Template}
    (h : Template.parse definition.template = .ok template) (hmade : matcher template = .ok made) :
    definition.compileWith matcher =
      ((accessTable definition.type definition.accesses.entries).mapError CompileError.topic).map
        fun accesses => (⟨definition.type, template, definition.hashKind, accesses⟩, made) := by
  simp only [compileWith, h, Steps.mapError_ok, bind, Except.bind, hmade]
  cases accessTable definition.type definition.accesses.entries <;> rfl

/-- Without matchers a definition is compiled template first, and then its accesses. -/
theorem compile_eq (definition : TopicDefinition) :
    definition.compile = (do
      let template ← (Template.parse definition.template).mapError
        (TopicError.invalidTemplate definition.type)
      let accesses ← accessTable definition.type definition.accesses.entries
      return ⟨definition.type, template, definition.hashKind, accesses⟩) := by
  rw [compile, compileWith]
  cases Template.parse definition.template with
  | error e => rfl
  | ok template => cases accessTable definition.type definition.accesses.entries <;> rfl

/-- A definition is compiled with matchers as it is without, if a matcher is made of its template. -/
theorem compileWith_eq_ok_iff :
    definition.compileWith matcher = .ok (pattern, made) ↔
      definition.compile = .ok pattern ∧ matcher pattern.template = .ok made := by
  rw [compile_eq, compileWith]
  simp only [Steps.bind_eq_ok_iff, Steps.pure_eq_ok_iff, Steps.mapError_eq_ok_iff, Prod.mk.injEq]
  constructor
  · rintro ⟨template, htemplate, _, hmade, accesses, haccesses, rfl, rfl⟩
    exact ⟨⟨template, htemplate, accesses, haccesses, rfl⟩, hmade⟩
  · rintro ⟨⟨template, htemplate, accesses, haccesses, rfl⟩, hmade⟩
    exact ⟨template, htemplate, made, hmade, accesses, haccesses, rfl, rfl⟩

theorem parse_template (h : definition.compile = .ok pattern) :
    Template.parse definition.template = .ok pattern.template := by
  rw [compile_eq] at h
  simp only [Steps.bind_eq_ok_iff, Steps.pure_eq_ok_iff, Steps.mapError_eq_ok_iff] at h
  obtain ⟨template, htemplate, _, -, rfl⟩ := h
  exact htemplate

theorem compile_type (h : definition.compile = .ok pattern) : pattern.type = definition.type :=
  Registry.compileWith_type (compileWith_eq_ok_iff.mpr ⟨h, rfl⟩ : definition.compileWith noMatcher = _)

end TopicDefinition

/-- Patterns keep the types of their definitions. -/
theorem Compiled.map_type {definitions : List TopicDefinition} {patterns : List TopicPattern}
    (h : Compiled definitions patterns) :
    patterns.map TopicPattern.type = definitions.map TopicDefinition.type := by
  induction h with
  | nil => rfl
  | cons hcompile _ ih => simp [ih, TopicDefinition.compile_type hcompile]

/-- Definitions are compiled in one way. -/
theorem Compiled.unique {definitions : List TopicDefinition} {patterns patterns' : List TopicPattern}
    (h : Compiled definitions patterns) (h' : Compiled definitions patterns') :
    patterns = patterns' :=
  List.right_unique_forall₂' (fun _ _ _ hp hp' => Except.ok.inj (hp.symm.trans hp')) h h'

/-- Each pattern comes with the matcher that is made of its template. -/
def Matched {ε μ : Type} (matcher : Template → Except ε μ) (patterns : List TopicPattern)
    (matchers : List μ) : Prop :=
  List.Forall₂ (fun pattern made => matcher pattern.template = .ok made) patterns matchers

/-- Matchers are made in one way. -/
theorem Matched.unique {ε μ : Type} {matcher : Template → Except ε μ} {patterns : List TopicPattern}
    {matchers matchers' : List μ} (h : Matched matcher patterns matchers)
    (h' : Matched matcher patterns matchers') : matchers = matchers' :=
  List.right_unique_forall₂' (fun _ _ _ hm hm' => Except.ok.inj (hm.symm.trans hm')) h h'

/-- Whether a pattern accepts a topic and what it captures are one question. -/
theorem TopicPattern.isSome_captures? (pattern : TopicPattern) (company stripped : String) :
    (pattern.captures? company stripped).isSome = pattern.accepts company stripped :=
  Option.isSome_map

namespace Registry

variable {company topic : String} {definitions : List TopicDefinition} {registry : Registry}
  {pattern : TopicPattern} {found : TopicMatch}

/-- Definitions compile if each one does, a matcher is made of each template, no type is declared
twice, and none was taken before. -/
theorem compileAll_eq_ok_iff {ε μ : Type} {matcher : Template → Except ε μ} {taken : List String}
    {compiled : List (TopicPattern × μ)} :
    compileAll matcher taken definitions = .ok compiled ↔
      Compiled definitions (compiled.map Prod.fst) ∧
        Matched matcher (compiled.map Prod.fst) (compiled.map Prod.snd) ∧
        (definitions.map TopicDefinition.type).Nodup ∧
        ∀ definition ∈ definitions, definition.type ∉ taken := by
  induction definitions generalizing taken compiled with
  | nil =>
    simp only [compileAll, Compiled, Matched, List.forall₂_nil_left_iff, List.map_eq_nil_iff,
      Except.ok.injEq]
    constructor
    · rintro rfl
      exact ⟨rfl, .nil, List.nodup_nil, by simp⟩
    · exact fun h => h.1.symm
  | cons definition rest ih =>
    rw [compileAll]
    split
    · next htaken =>
      simp [htaken]
    · next hfresh =>
      simp only [Steps.bind_eq_ok_iff, Steps.pure_eq_ok_iff, ih]
      constructor
      · rintro ⟨⟨pattern, made⟩, hfirst, others, ⟨hcompiled, hmatched, hnodup, hothers⟩, rfl⟩
        obtain ⟨hpattern, hmade⟩ := TopicDefinition.compileWith_eq_ok_iff.mp hfirst
        refine ⟨.cons hpattern hcompiled, .cons hmade hmatched, ?_, ?_⟩
        · rw [List.map_cons, List.nodup_cons]
          refine ⟨fun hmem => ?_, hnodup⟩
          obtain ⟨other, hother, htype⟩ := List.mem_map.mp hmem
          -- The type of this definition counts as taken for the others.
          apply hothers other hother
          simp [htype]
        · rw [List.forall_mem_cons]
          refine ⟨hfresh, fun other hother htaken => ?_⟩
          exact hothers other hother (List.mem_cons_of_mem _ htaken)
      · rintro ⟨hcompiled, hmatched, hnodup, hothers⟩
        cases compiled with
        | nil => cases hcompiled
        | cons first others =>
          cases hcompiled with
          | cons hpattern hcompiled =>
            cases hmatched with
            | cons hmade hmatched =>
              rw [List.map_cons, List.nodup_cons] at hnodup
              refine ⟨first, TopicDefinition.compileWith_eq_ok_iff.mpr ⟨hpattern, hmade⟩, others,
                ⟨hcompiled, hmatched, hnodup.2, ?_⟩, rfl⟩
              intro other hother
              rw [List.mem_cons, not_or]
              refine ⟨fun htype => ?_, (List.forall_mem_cons.mp hothers).2 other hother⟩
              exact hnodup.1 (htype ▸ List.mem_map_of_mem hother)

/-- With matchers the registry of a list of definitions is the one without, if a matcher is made of
each template. -/
theorem ofDefinitionsWith_eq_ok_iff {ε μ : Type} {matcher : Template → Except ε μ}
    {matchers : List μ} :
    ofDefinitionsWith matcher company definitions = .ok (registry, matchers) ↔
      registry.company = company ∧ Compiled definitions registry.topics ∧
        Matched matcher registry.topics matchers := by
  unfold ofDefinitionsWith
  split
  · next compiled hcompileAll =>
    obtain ⟨hcompiled, hmatched, -⟩ := compileAll_eq_ok_iff.mp hcompileAll
    obtain ⟨company', topics', hdistinct⟩ := registry
    simp only [Except.ok.injEq, Prod.mk.injEq, Registry.mk.injEq]
    constructor
    · rintro ⟨⟨rfl, rfl⟩, rfl⟩
      exact ⟨rfl, hcompiled, hmatched⟩
    · rintro ⟨rfl, hcompiled', hmatched'⟩
      obtain rfl := hcompiled.unique hcompiled'
      exact ⟨⟨rfl, rfl⟩, hmatched.unique hmatched'⟩
  · next e herror =>
    constructor
    · intro h
      cases h
    rintro ⟨-, hcompiled, hmatched⟩
    have hlength : registry.topics.length = matchers.length := hmatched.length_eq
    have hok : compileAll matcher [] definitions = .ok (registry.topics.zip matchers) := by
      rw [compileAll_eq_ok_iff, List.map_fst_zip (Nat.le_of_eq hlength),
        List.map_snd_zip (Nat.le_of_eq hlength.symm)]
      exact ⟨hcompiled, hmatched, hcompiled.map_type ▸ registry.distinct, by simp⟩
    rw [herror] at hok
    cases hok

theorem ofDefinitions_eq_ok_iff_exists :
    ofDefinitions company definitions = .ok registry ↔
      ∃ matchers, ofDefinitionsWith noMatcher company definitions = .ok (registry, matchers) := by
  unfold ofDefinitions
  rcases ofDefinitionsWith noMatcher company definitions with e | ⟨built, matchers⟩ <;>
    simp [Except.map]

/-- The registry of a list of definitions holds them compiled, in their order. -/
theorem ofDefinitions_eq_ok_iff :
    ofDefinitions company definitions = .ok registry ↔
      registry.company = company ∧ Compiled definitions registry.topics := by
  simp only [ofDefinitions_eq_ok_iff_exists, ofDefinitionsWith_eq_ok_iff]
  constructor
  · rintro ⟨matchers, hcompany, hcompiled, -⟩
    exact ⟨hcompany, hcompiled⟩
  · rintro ⟨hcompany, hcompiled⟩
    refine ⟨registry.topics.map fun _ => (), hcompany, hcompiled, ?_⟩
    exact List.forall₂_map_right_iff.mpr (List.forall₂_same.mpr fun _ _ => rfl)

/-! ## §2 The first pattern that takes a topic -/

/-- A pattern takes a topic: it accepts what is left of it without the company, and where the
pattern begins with the company, the topic carried it. -/
structure Takes (registry : Registry) (topic : String) (pattern : TopicPattern) : Prop where
  accepts : pattern.accepts registry.company (registry.strip topic).1 = true
  carries : pattern.requiresTenantPrefix = true → registry.Carries topic

/-- The pattern in place `i` takes a topic, and no pattern that is declared before it does. -/
structure IsFirst (registry : Registry) (topic : String) (i : Nat) (pattern : TopicPattern) :
    Prop where
  declared : registry.topics[i]? = some pattern
  takes : registry.Takes topic pattern
  least : ∀ j < i, ∀ earlier, registry.topics[j]? = some earlier → ¬registry.Takes topic earlier

theorem isSome_match?_iff :
    (registry.match? topic pattern).isSome = true ↔ registry.Takes topic pattern := by
  rw [Option.isSome_iff_exists]
  constructor
  · rintro ⟨found, hmatch⟩
    obtain ⟨-, hcarries, hcaptures⟩ := match?_eq_some_iff.mp hmatch
    refine ⟨?_, hcarries⟩
    rw [← TopicPattern.isSome_captures?, hcaptures, Option.isSome_some]
  · rintro ⟨haccepts, hcarries⟩
    rw [← TopicPattern.isSome_captures?, Option.isSome_iff_exists] at haccepts
    obtain ⟨segments, hsegments⟩ := haccepts
    exact ⟨⟨pattern, segments⟩, match?_eq_some_iff.mpr ⟨rfl, hcarries, hsegments⟩⟩

theorem match?_eq_none_iff :
    registry.match? topic pattern = none ↔ ¬registry.Takes topic pattern := by
  rw [← isSome_match?_iff, Bool.not_eq_true, Option.isSome_eq_false_iff, Option.isNone_iff_eq_none]

/-- What is found is the first pattern that takes the topic, with what it captures. -/
theorem lookup_eq_some_iff :
    registry.lookup topic = some found ↔
      ∃ i, registry.IsFirst topic i found.pattern ∧
        found.pattern.captures? registry.company (registry.strip topic).1 = some found.segments := by
  rw [lookup_eq_findSome?, List.findSome?_eq_some_iff]
  constructor
  · rintro ⟨before, pattern, behind, htopics, hmatch, hbefore⟩
    have htakes : registry.Takes topic pattern := by
      rw [← isSome_match?_iff, hmatch, Option.isSome_some]
    obtain ⟨rfl, -, hcaptures⟩ := match?_eq_some_iff.mp hmatch
    -- Its place is behind all those that take nothing.
    refine ⟨before.length, ⟨by simp [htopics], htakes, ?_⟩, hcaptures⟩
    intro j hj earlier hearlier
    rw [htopics, List.getElem?_append_left hj] at hearlier
    exact match?_eq_none_iff.mp (hbefore earlier (List.mem_of_getElem? hearlier))
  · rintro ⟨i, ⟨hdeclared, htakes, hleast⟩, hcaptures⟩
    -- The place of the pattern divides the declarations.
    obtain ⟨hi, hpattern⟩ := List.getElem?_eq_some_iff.mp hdeclared
    refine ⟨registry.topics.take i, found.pattern, registry.topics.drop (i + 1), ?_, ?_, ?_⟩
    · rw [← hpattern, List.getElem_cons_drop, List.take_append_drop]
    · apply match?_eq_some_iff.mpr
      exact ⟨rfl, htakes.carries, hcaptures⟩
    · intro earlier hearlier
      obtain ⟨j, hj, rfl⟩ := List.mem_take_iff_getElem.mp hearlier
      apply match?_eq_none_iff.mpr
      exact hleast j (by omega) _ (List.getElem?_eq_getElem (by omega))

/-- The pattern that is found takes the topic. -/
theorem takes_of_lookup (h : registry.lookup topic = some found) :
    registry.Takes topic found.pattern := by
  obtain ⟨i, hfirst, -⟩ := lookup_eq_some_iff.mp h
  exact hfirst.takes

/-- A topic that is not found is taken by no pattern. -/
theorem lookup_eq_none_iff :
    registry.lookup topic = none ↔ ∀ pattern ∈ registry.topics, ¬registry.Takes topic pattern := by
  rw [lookup_eq_findSome?, List.findSome?_eq_none_iff]
  simp only [match?_eq_none_iff]

/-! ## §3 The answers of a registry -/

/-- The type of a topic names the very pattern that is found. -/
theorem bind_classify_get? (registry : Registry) (topic : String) :
    (registry.classify topic).bind registry.get? =
      (registry.lookup topic).map TopicMatch.pattern := by
  rw [classify_eq_map_lookup]
  cases hfound : registry.lookup topic with
  | none => rfl
  | some found => exact get?_of_lookup hfound

/-- **The first pattern that takes a topic answers for it.**  In the registry of a list of
definitions a topic is found by the first declared pattern that takes it, with what this pattern
captures, and by none if none takes it.  The type of the topic is that of the pattern that is found,
a topic is valid if it has a type, and the type names this pattern and no other. -/
theorem lookup_first_declared (h : ofDefinitions company definitions = .ok registry)
    (topic : String) :
    registry.company = company ∧ Compiled definitions registry.topics ∧
    (∀ found, registry.lookup topic = some found ↔
      ∃ i, registry.IsFirst topic i found.pattern ∧
        found.pattern.captures? company (registry.strip topic).1 = some found.segments) ∧
    (registry.lookup topic = none ↔
      ∀ pattern ∈ registry.topics, ¬registry.Takes topic pattern) ∧
    registry.classify topic = (registry.lookup topic).map (fun found => found.pattern.type) ∧
    (registry.isValid topic = true ↔ ∃ type, registry.classify topic = some type) ∧
    (registry.classify topic).bind registry.get? =
      (registry.lookup topic).map TopicMatch.pattern := by
  obtain ⟨rfl, hcompiled⟩ := ofDefinitions_eq_ok_iff.mp h
  exact ⟨rfl, hcompiled, fun _ => lookup_eq_some_iff, lookup_eq_none_iff,
    registry.classify_eq_map_lookup topic, Option.isSome_iff_exists,
    registry.bind_classify_get? topic⟩

/-! ### A tenant with rooms and calls -/

/-- The declarations of rooms and of calls.  The topic of a call may also be that of a room. -/
def roomsAndCalls : List TopicDefinition :=
  [{ type := "room", template := "\x7bcompany\x7d/\x7broom\x7d/\x7bseat\x7d" },
    { type := "call", template := "\x7bcompany\x7d/call/\x7bid\x7d" }]

def room : TopicPattern where
  type := "room"
  template :=
    { parts := [.field .company, .literal "/", .field (.segment "room"), .literal "/",
        .field (.segment "seat")]
      distinct := by decide }
  hashKind := .identity
  accesses := ⟨none, none⟩

def call : TopicPattern where
  type := "call"
  template :=
    { parts := [.field .company, .literal "/call/", .field (.segment "id")], distinct := by decide }
  hashKind := .identity
  accesses := ⟨none, none⟩

def rooms : Registry where
  company := "snapp"
  topics := [room, call]
  distinct := by decide

/-- A call is found as a room, which is declared first. -/
theorem lookup_first_declared_rooms :
    ofDefinitions "snapp" roomsAndCalls = .ok rooms ∧
      rooms.Takes "snapp/call/7" call ∧
      ∃ found, rooms.lookup "snapp/call/7" = some found ∧ found.pattern = room ∧
        (rooms.classify "snapp/call/7").bind rooms.get? = some room := by
  have hrooms : ofDefinitions "snapp" roomsAndCalls = .ok rooms := by
    apply ofDefinitions_eq_ok_iff.mpr
    exact ⟨rfl, .cons (by decide +kernel) (.cons (by decide +kernel) .nil)⟩
  have hcarries : rooms.Carries "snapp/call/7" := by
    show "snapp".toList <+: "snapp/call/7".toList
    decide
  -- Both patterns take the topic, and the rooms are in the first place.
  have hcall : rooms.Takes "snapp/call/7" call := ⟨by decide +kernel, fun _ => hcarries⟩
  have hroom : rooms.IsFirst "snapp/call/7" 0 room :=
    ⟨rfl, ⟨by decide +kernel, fun _ => hcarries⟩, fun j hj => absurd hj j.not_lt_zero⟩
  have hcaptures : room.captures? "snapp" (rooms.strip "snapp/call/7").1 =
      some (TextMap.ofList [("room", "call"), ("seat", "7")]) := by
    decide +kernel
  obtain ⟨-, -, hlookup, -, -, -, hget⟩ := lookup_first_declared hrooms "snapp/call/7"
  have hfound := (hlookup ⟨room, _⟩).mpr ⟨0, hroom, hcaptures⟩
  refine ⟨hrooms, hcall, _, hfound, rfl, ?_⟩
  rw [hget, hfound, Option.map_some]

end Registry

end TopicGate
