import TopicGate.Topic.Pattern

/-!
# Registries

The ordered topic patterns of one tenant.  A topic belongs to the first pattern that accepts it, so
an earlier pattern may keep a later one from ever being chosen; `shadowed` reports such pairs.

## Sections
1. The registry
2. Building one
3. Looking topics up
4. Shadowed patterns
-/

namespace TopicGate

/-! ## §1 The registry -/

/-- The patterns of a tenant in declaration order, each with a type of its own. -/
structure Registry where
  company : String
  topics : List TopicPattern
  distinct : (topics.map TopicPattern.type).Nodup

/-! ## §2 Building one -/

namespace Registry

variable {ε μ : Type}

/-- Compiles definitions in order, given the types already taken.  A repeated type is found before
its definition is looked at any further. -/
def compileAll (matcher : Template → Except ε μ) (taken : List String) :
    List TopicDefinition → Except (CompileError ε) (List (TopicPattern × μ))
  | [] => .ok []
  | definition :: rest =>
    if definition.type ∈ taken then .error (.topic (.duplicateType definition.type))
    else do
      let pattern ← definition.compileWith matcher
      let patterns ← compileAll matcher (definition.type :: taken) rest
      return pattern :: patterns

theorem compileWith_type {matcher : Template → Except ε μ} {definition : TopicDefinition}
    {compiled : TopicPattern × μ} (h : definition.compileWith matcher = .ok compiled) :
    compiled.1.type = definition.type := by
  unfold TopicDefinition.compileWith at h
  simp only [bind, Except.bind, pure, Except.pure] at h
  split at h
  · cases h
  · split at h
    · cases h
    · split at h
      · cases h
      · cases h; rfl

/-- Compiled types are distinct, and none of them was taken before. -/
theorem compileAll_distinct {matcher : Template → Except ε μ} {taken : List String}
    {definitions : List TopicDefinition} {compiled : List (TopicPattern × μ)}
    (h : compileAll matcher taken definitions = .ok compiled) :
    ((compiled.map Prod.fst).map TopicPattern.type).Nodup ∧
      ∀ c ∈ compiled, c.1.type ∉ taken := by
  induction definitions generalizing taken compiled with
  | nil => cases h; simp
  | cons definition rest ih =>
    unfold compileAll at h
    split at h
    · cases h
    · next hfresh =>
      cases hfirst : definition.compileWith matcher with
      | error e => simp [hfirst, bind, Except.bind] at h
      | ok first =>
        cases hrest : compileAll matcher (definition.type :: taken) rest with
        | error e => simp [hfirst, hrest, bind, Except.bind] at h
        | ok others =>
          simp only [hfirst, hrest, bind, Except.bind, pure, Except.pure] at h
          cases h
          -- The later types differ from this one, which counts as taken for them.
          obtain ⟨hnodup, hothers⟩ := ih hrest
          have htype := compileWith_type hfirst
          refine ⟨List.nodup_cons.2 ⟨fun hmem => ?_, hnodup⟩, fun c hc => ?_⟩
          · simp only [List.mem_map] at hmem
            obtain ⟨_, ⟨c, hc, rfl⟩, hct⟩ := hmem
            exact hothers c hc (by rw [hct, htype]; exact List.mem_cons_self)
          · rcases List.mem_cons.1 hc with rfl | hc
            · rw [htype]; exact hfresh
            · exact fun hmem => hothers c hc (List.mem_cons_of_mem _ hmem)

/-- Compiles the definitions of a tenant to a registry and the matchers of its patterns; the first
definition at fault decides the error. -/
def ofDefinitionsWith (matcher : Template → Except ε μ) (company : String)
    (definitions : List TopicDefinition) : Except (CompileError ε) (Registry × List μ) :=
  match h : compileAll matcher [] definitions with
  | .ok compiled =>
    .ok ({ company, topics := compiled.map Prod.fst, distinct := (compileAll_distinct h).1 },
      compiled.map Prod.snd)
  | .error e => .error e

def ofDefinitions (company : String) (definitions : List TopicDefinition) :
    Except TopicError Registry :=
  ((ofDefinitionsWith noMatcher company definitions).mapError CompileError.topicError).map Prod.fst

def get? (registry : Registry) (type : String) : Option TopicPattern :=
  registry.topics.find? fun pattern => pattern.type == type

/-- Renders the pattern with a given type; empty if there is none or a field is missing. -/
def render (registry : Registry) (type : String) (fields : TopicFields) : String :=
  match registry.get? type with
  | some pattern => pattern.render fields
  | none => ""

/-! ## §3 Looking topics up -/

/-- A topic without the tenant's company in front, and whether it was there. -/
def strip (registry : Registry) (topic : String) : String × Bool :=
  match registry.company.toList.isPrefixOf? topic.toList with
  | some rest => (String.ofList rest, true)
  | none => (topic, false)

end Registry

/-- A recognised topic: its pattern, and the values of the pattern's segments in it. -/
structure TopicMatch where
  pattern : TopicPattern
  segments : TextMap String

namespace Registry

/-- The first pattern that accepts a topic, with the captured segments.  A pattern that begins with
the company accepts only topics that do. -/
def lookup (registry : Registry) (topic : String) : Option TopicMatch :=
  -- The company is taken off for every pattern, also for those that do not begin with it.
  let (stripped, prefixed) := registry.strip topic
  registry.topics.findSome? fun pattern =>
    if prefixed || !pattern.requiresTenantPrefix then
      (pattern.captures? registry.company stripped).map fun segments => ⟨pattern, segments⟩
    else none

/-- The type of the first pattern that accepts a topic. -/
def classify (registry : Registry) (topic : String) : Option String :=
  let (stripped, prefixed) := registry.strip topic
  (registry.topics.find? fun pattern =>
    (prefixed || !pattern.requiresTenantPrefix) && pattern.accepts registry.company stripped).map
      TopicPattern.type

def isValid (registry : Registry) (topic : String) : Bool := (registry.classify topic).isSome

/-! ## §4 Shadowed patterns -/

def sampleFields (registry : Registry) (pattern : TopicPattern) (audience : Audience) :
    TopicFields :=
  let fields : TopicFields :=
    { company := registry.company
      identityToken := some "sample0"
      segments := TextMap.ofList (pattern.template.segmentNames.map fun name => (name, "sample")) }
  fields.withAudience audience

def sample (registry : Registry) (pattern : TopicPattern) (audience : Audience) : String :=
  pattern.render (registry.sampleFields pattern audience)

/-- The first of the patterns `earlier` that accepts a sample topic of `pattern`, for the first
audience whose sample one of them accepts.  An empty sample is nobody's topic. -/
def shadower? (registry : Registry) (earlier : List TopicPattern) (pattern : TopicPattern) :
    Option TopicPattern :=
  Audience.all.findSome? fun audience =>
    let sample := registry.sample pattern audience
    if sample = "" then none
    else earlier.find? fun p => p.accepts registry.company (registry.strip sample).1

/-- The shadowed ones among `patterns`, which follow the patterns `earlier`. -/
def shadowedFrom (registry : Registry) (earlier : List TopicPattern) :
    List TopicPattern → List (String × String)
  | [] => []
  | pattern :: rest =>
    let here := match registry.shadower? earlier pattern with
      | some first => [(first.type, pattern.type)]
      | none => []
    here ++ shadowedFrom registry (earlier ++ [pattern]) rest

/-- The pairs of an earlier and a later type where the earlier pattern accepts a sample topic of the
later one, in declaration order of the later. -/
def shadowed (registry : Registry) : List (String × String) :=
  registry.shadowedFrom [] registry.topics

end Registry

end TopicGate
