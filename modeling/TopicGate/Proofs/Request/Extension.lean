import TopicGate.Proofs.Topic.Shadowing
import TopicGate.Request.Policy

/-!
# Further families

A tenant may declare further families of topics behind those it has.  Whatever an earlier pattern
takes stays with it, so the topics of the old families are found, reported and decided as before, and
the new families get only topics that nobody had.

## Main definitions
* `Registry.Extends`: a registry with further patterns behind those of another.

## Main statements
* `Extends.lookup_eq`, `Extends.type_mem`, `Extends.shadowed_prefix`: what further patterns change.
* `Policy.decide_eq_of_extends`: decisions about the topics of the old patterns.
* `Policy.further_families_keep`: the same of definitions.
-/

namespace TopicGate

/-! ## §1 Further patterns -/

namespace Registry

/-- A registry of the same company with the patterns `added` behind those of another registry. -/
structure Extends (whole part : Registry) (added : List TopicPattern) : Prop where
  company_eq : whole.company = part.company
  topics_eq : whole.topics = part.topics ++ added

namespace Extends

variable {whole part : Registry} {added : List TopicPattern} {topic type : String}

/-- What a single pattern makes of a topic does not depend on the other patterns. -/
theorem match?_eq (h : whole.Extends part added) (topic : String) :
    whole.match? topic = part.match? topic := by
  funext pattern
  unfold match? strip
  rw [h.company_eq]

/-- Further patterns are asked only about topics that are not found without them. -/
theorem lookup_eq_or (h : whole.Extends part added) (topic : String) :
    whole.lookup topic = (part.lookup topic).or (added.findSome? (part.match? topic)) := by
  rw [lookup_eq_findSome?, lookup_eq_findSome?, h.topics_eq, h.match?_eq, List.findSome?_append]

/-- A valid topic is found as before. -/
theorem lookup_eq (h : whole.Extends part added) (hvalid : part.isValid topic = true) :
    whole.lookup topic = part.lookup topic := by
  rw [isValid_eq_isSome_lookup] at hvalid
  obtain ⟨found, hfound⟩ := Option.isSome_iff_exists.mp hvalid
  rw [h.lookup_eq_or, hfound, Option.some_or]

/-- Any other topic can only get the type of a further pattern. -/
theorem type_mem (h : whole.Extends part added) (hinvalid : part.isValid topic = false)
    (htype : whole.classify topic = some type) : type ∈ added.map TopicPattern.type := by
  have hnone : part.lookup topic = none := by
    rwa [isValid_eq_isSome_lookup, Option.isSome_eq_false_iff, Option.isNone_iff_eq_none]
      at hinvalid
  rw [classify_eq_map_lookup, h.lookup_eq_or, hnone, Option.none_or] at htype
  obtain ⟨found, hfound, rfl⟩ := Option.map_eq_some_iff.mp htype
  obtain ⟨pattern, hpattern, hmatch⟩ := List.exists_of_findSome?_eq_some hfound
  rw [(match?_eq_some_iff.mp hmatch).1]
  exact List.mem_map_of_mem hpattern

/-- What shadows a pattern does not depend on what is declared behind it. -/
theorem shadowedFrom_eq (h : whole.Extends part added) (before patterns : List TopicPattern) :
    whole.shadowedFrom before patterns = part.shadowedFrom before patterns := by
  have hshadower : ∀ before, whole.shadower? before = part.shadower? before := by
    intro before
    funext pattern
    unfold shadower? sample sampleFields strip
    rw [h.company_eq]
  induction patterns generalizing before with
  | nil => rfl
  | cons pattern rest ih => rw [shadowedFrom, shadowedFrom, hshadower, ih]

/-- What was reported is reported again, in front of what is new. -/
theorem shadowed_prefix (h : whole.Extends part added) : part.shadowed <+: whole.shadowed := by
  refine ⟨part.shadowedFrom ([] ++ part.topics) added, ?_⟩
  rw [shadowed, shadowed, h.shadowedFrom_eq, h.topics_eq, shadowedFrom_append]

end Extends

/-- The first of a list of definitions make a registry of their own, which the others extend. -/
theorem exists_extends {company : String} {definitions added : List TopicDefinition}
    {whole : Registry} (h : ofDefinitions company (definitions ++ added) = .ok whole) :
    ∃ part patterns, ofDefinitions company definitions = .ok part ∧ Compiled added patterns ∧
      whole.Extends part patterns := by
  obtain ⟨rfl, hcompiled⟩ := ofDefinitions_eq_ok_iff.mp h
  have hfirst := List.forall₂_take definitions.length hcompiled
  have hothers := List.forall₂_drop definitions.length hcompiled
  rw [List.take_left] at hfirst
  rw [List.drop_left] at hothers
  let part : Registry :=
    { company := whole.company
      topics := whole.topics.take definitions.length
      distinct := whole.distinct.sublist ((List.take_sublist _ _).map _) }
  refine ⟨part, _, ofDefinitions_eq_ok_iff.mpr ⟨rfl, hfirst⟩, hothers, rfl, ?_⟩
  exact (List.take_append_drop _ _).symm

end Registry

/-! ## §2 Decisions -/

namespace Policy

variable {policy : Policy} {whole : Registry} {added : List TopicPattern} {topic : String}

/-- Who owns a topic that was found depends on the patterns no more. -/
theorem permits_eq_of_extends (h : whole.Extends policy.registry added) (found : TopicMatch)
    (topic : String) (audience : Audience) (subject : String) (requested : AccessType) :
    ({ policy with registry := whole } : Policy).permits found topic audience subject requested =
      policy.permits found topic audience subject requested := by
  simp only [permits, ownership, Ownership.ownsMatch, Ownership.ownFields, Ownership.identityToken,
    h.company_eq]

/-- A request on a valid topic is decided as before. -/
theorem decide_eq_of_extends (h : whole.Extends policy.registry added)
    (hvalid : policy.registry.isValid topic = true) (requested : AccessType) (claims : Claims) :
    ({ policy with registry := whole } : Policy).decide requested topic claims =
      policy.decide requested topic claims := by
  simp only [decide, h.lookup_eq hvalid, permits_eq_of_extends h, audienceOf]

/-- **Further families leave the others as they are.**  If definitions behind others make a registry,
the others make one without them.  A topic that is valid there is found as it was, with the same
pattern and segments, and every request on it is decided as it was; any other topic can only get the
type of one of the further definitions; and what was reported as shadowed is reported first. -/
theorem further_families_keep {company : String} {definitions added : List TopicDefinition}
    {whole : Registry} (h : Registry.ofDefinitions company (definitions ++ added) = .ok whole) :
    ∃ part, Registry.ofDefinitions company definitions = .ok part ∧
      (∀ topic, part.isValid topic = true → whole.lookup topic = part.lookup topic) ∧
      (∀ topic type, part.isValid topic = false → whole.classify topic = some type →
        type ∈ added.map TopicDefinition.type) ∧
      part.shadowed <+: whole.shadowed ∧
      ∀ policy : Policy, policy.registry = part → ∀ requested topic claims,
        part.isValid topic = true →
        ({ policy with registry := whole } : Policy).decide requested topic claims =
          policy.decide requested topic claims := by
  obtain ⟨part, patterns, hpart, hcompiled, hextends⟩ := Registry.exists_extends h
  refine ⟨part, hpart, fun topic => hextends.lookup_eq, ?_, hextends.shadowed_prefix, ?_⟩
  · intro topic type hinvalid htype
    rw [← hcompiled.map_type]
    exact hextends.type_mem hinvalid htype
  · rintro policy rfl requested topic claims hvalid
    exact decide_eq_of_extends hextends hvalid requested claims

end Policy

/-! ### Rooms behind calls -/

def callFamily : TopicDefinition :=
  { type := "call", template := "\x7bcompany\x7d/call/\x7bid\x7d" }

def roomFamily : TopicDefinition :=
  { type := "room", template := "\x7bcompany\x7d/\x7broom\x7d/\x7bseat\x7d" }

/-- The tenant before it had rooms. -/
def callsOnly : Registry := { company := "snapp", topics := [Registry.call], distinct := by decide }

def callsThenRooms : Registry where
  company := "snapp"
  topics := [Registry.call, Registry.room]
  distinct := by decide

/-- A call stays a call although the rooms accept its topic, and a seat gets a type of its own. -/
theorem Policy.further_families_keep_calls :
    Registry.ofDefinitions "snapp" ([callFamily] ++ [roomFamily]) = .ok callsThenRooms ∧
      Registry.ofDefinitions "snapp" [callFamily] = .ok callsOnly ∧
      callsThenRooms.lookup "snapp/call/7" = callsOnly.lookup "snapp/call/7" ∧
      callsOnly.isValid "snapp/lobby/7" = false ∧
      callsThenRooms.classify "snapp/lobby/7" = some "room" ∧ "room" ∈ [roomFamily.type] := by
  have hcall : callFamily.compile = .ok Registry.call := by decide +kernel
  have hwhole : Registry.ofDefinitions "snapp" ([callFamily] ++ [roomFamily]) = .ok callsThenRooms :=
    Registry.ofDefinitions_eq_ok_iff.mpr ⟨rfl, .cons hcall (.cons (by decide +kernel) .nil)⟩
  have hpart : Registry.ofDefinitions "snapp" [callFamily] = .ok callsOnly :=
    Registry.ofDefinitions_eq_ok_iff.mpr ⟨rfl, .cons hcall .nil⟩
  obtain ⟨part, hpart', hkept, hnew, -, -⟩ := Policy.further_families_keep hwhole
  obtain rfl : part = callsOnly := Except.ok.inj (hpart'.symm.trans hpart)
  have hinvalid : callsOnly.isValid "snapp/lobby/7" = false := by decide +kernel
  have htype : callsThenRooms.classify "snapp/lobby/7" = some "room" := by decide +kernel
  exact ⟨hwhole, hpart, hkept _ (by decide +kernel), hinvalid, htype, hnew _ _ hinvalid htype⟩

end TopicGate
