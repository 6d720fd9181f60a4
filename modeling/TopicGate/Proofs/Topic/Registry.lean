import TopicGate.Topic.Registry
import Mathlib.Data.List.Nodup

/-!
# Recognition

What the registry does to a topic before any pattern sees it, and what is known of the pattern that
is found.

## Main statements
* `strip_cases`: a topic carries the company in front or is left as it is.
* `lookup_eq_some`: where a recognised topic comes from.
* `exists_lookup_of_match?`: a pattern that accepts a topic is found, or an earlier one is.
* `classify_eq_map_lookup`: the type of a topic is that of the pattern that is found.
* `get?_eq_some_iff`: a type names at most one pattern.
-/

namespace TopicGate.Registry

variable {registry : Registry} {topic : String} {found : TopicMatch} {pattern : TopicPattern}

/-! ## §1 The company in front -/

/-- A topic begins with the company. -/
def Carries (registry : Registry) (topic : String) : Prop :=
  registry.company.toList <+: topic.toList

/-- The company is taken off the front of a topic; a topic without it is left as it is. -/
theorem strip_cases (registry : Registry) (topic : String) :
    (registry.Carries topic ∧ ∃ rest, topic = registry.company ++ rest ∧
      registry.strip topic = (rest, true)) ∨
    (¬registry.Carries topic ∧ registry.strip topic = (topic, false)) := by
  unfold strip
  split
  · next rest hrest =>
    have htopic : registry.company.toList ++ rest = topic.toList :=
      List.isPrefixOf?_eq_some_iff_append_eq.mp hrest
    refine Or.inl ⟨⟨rest, htopic⟩, String.ofList rest, ?_, rfl⟩
    rw [← String.toList_inj, String.toList_append, String.toList_ofList, htopic]
  · next hnone =>
    refine Or.inr ⟨?_, rfl⟩
    rintro ⟨rest, hrest⟩
    rw [List.isPrefixOf?_eq_some_iff_append_eq.mpr hrest] at hnone
    cases hnone

/-- The company is taken off a topic that was put together behind it. -/
@[simp] theorem strip_company_append (registry : Registry) (rest : String) :
    registry.strip (registry.company ++ rest) = (rest, true) := by
  have hrest : registry.company.toList.isPrefixOf? (registry.company ++ rest).toList =
      some rest.toList := by
    rw [List.isPrefixOf?_eq_some_iff_append_eq, String.toList_append]
  unfold strip
  rw [hrest]
  simp only [String.ofList_toList]

/-! ## §2 The pattern that is found -/

/-- What a single pattern makes of a topic. -/
def match? (registry : Registry) (topic : String) (pattern : TopicPattern) : Option TopicMatch :=
  if (registry.strip topic).2 || !pattern.requiresTenantPrefix then
    (pattern.captures? registry.company (registry.strip topic).1).map fun segments =>
      ⟨pattern, segments⟩
  else none

theorem lookup_eq_findSome? (registry : Registry) (topic : String) :
    registry.lookup topic = registry.topics.findSome? (registry.match? topic) := rfl

theorem match?_eq_some_iff :
    registry.match? topic pattern = some found ↔
      found.pattern = pattern ∧
      (pattern.requiresTenantPrefix = true → registry.Carries topic) ∧
      pattern.captures? registry.company (registry.strip topic).1 = some found.segments := by
  have hadmits : ((registry.strip topic).2 || !pattern.requiresTenantPrefix) = true ↔
      (pattern.requiresTenantPrefix = true → registry.Carries topic) := by
    rcases registry.strip_cases topic with ⟨hcarries, rest, -, hstrip⟩ | ⟨hnot, hstrip⟩
    · simp [hstrip, hcarries]
    · simp [hstrip, hnot]
  rw [← hadmits, match?]
  split
  · next h =>
    rw [Option.map_eq_some_iff]
    constructor
    · rintro ⟨segments, hsegments, rfl⟩
      exact ⟨rfl, h, hsegments⟩
    · rintro ⟨rfl, -, hsegments⟩
      exact ⟨found.segments, hsegments, rfl⟩
  · next h => simp [h]

/-- A recognised topic is cut by one of the patterns, and carries the company if this pattern
begins with it. -/
theorem lookup_eq_some (h : registry.lookup topic = some found) :
    found.pattern ∈ registry.topics ∧
    (found.pattern.requiresTenantPrefix = true → registry.Carries topic) ∧
    found.pattern.captures? registry.company (registry.strip topic).1 = some found.segments := by
  rw [lookup_eq_findSome?] at h
  obtain ⟨pattern, hpattern, hfound⟩ := List.exists_of_findSome?_eq_some h
  obtain ⟨rfl, hcarries, hsegments⟩ := match?_eq_some_iff.mp hfound
  exact ⟨hpattern, hcarries, hsegments⟩

/-- A pattern that accepts a topic is found, or one that is declared before it. -/
theorem exists_lookup_of_match? {before behind : List TopicPattern}
    (htopics : registry.topics = before ++ pattern :: behind)
    (h : (registry.match? topic pattern).isSome = true) :
    ∃ found, registry.lookup topic = some found ∧
      (found.pattern ∈ before ∨ found.pattern = pattern) := by
  rw [lookup_eq_findSome?, htopics, List.findSome?_append]
  cases hbefore : before.findSome? (registry.match? topic) with
  | some found =>
    -- An earlier pattern accepts the topic as well.
    obtain ⟨other, hother, hfound⟩ := List.exists_of_findSome?_eq_some hbefore
    refine ⟨found, rfl, Or.inl ?_⟩
    rwa [(match?_eq_some_iff.mp hfound).1]
  | none =>
    obtain ⟨found, hfound⟩ := Option.isSome_iff_exists.mp h
    refine ⟨found, ?_, Or.inr (match?_eq_some_iff.mp hfound).1⟩
    rw [Option.none_or, List.findSome?_cons, hfound]

theorem isSome_match?_eq (registry : Registry) (topic : String) (pattern : TopicPattern) :
    (registry.match? topic pattern).isSome =
      (((registry.strip topic).2 || !pattern.requiresTenantPrefix) &&
        pattern.accepts registry.company (registry.strip topic).1) := by
  unfold match? TopicPattern.accepts TopicPattern.captures?
  split
  · next h => simp [h]
  · next h => simp [Bool.not_eq_true _ ▸ h]

/-- The type of a topic is that of the pattern that is found. -/
theorem classify_eq_map_lookup (registry : Registry) (topic : String) :
    registry.classify topic = (registry.lookup topic).map fun found => found.pattern.type := by
  have hclassify : registry.classify topic =
      (registry.topics.find? fun pattern => (registry.match? topic pattern).isSome).map
        TopicPattern.type := by
    simp only [isSome_match?_eq]
    rfl
  rw [hclassify, lookup_eq_findSome?]
  induction registry.topics with
  | nil => rfl
  | cons pattern patterns ih =>
    rw [List.find?_cons, List.findSome?_cons]
    cases hmatch : registry.match? topic pattern with
    | none => simpa using ih
    | some found => simp [(match?_eq_some_iff.mp hmatch).1]

/-- A type names at most one pattern, the one that has it. -/
theorem get?_eq_some_iff {type : String} :
    registry.get? type = some pattern ↔ pattern ∈ registry.topics ∧ pattern.type = type := by
  constructor
  · intro h
    exact ⟨List.mem_of_find?_eq_some h, by simpa using List.find?_some h⟩
  · rintro ⟨hmem, rfl⟩
    have hexists : ∃ other, registry.get? pattern.type = some other := by
      rw [← Option.isSome_iff_exists, get?, List.find?_isSome]
      exact ⟨pattern, hmem, by simp⟩
    obtain ⟨other, hother⟩ := hexists
    have htype : other.type = pattern.type := by simpa using List.find?_some hother
    have heq : other = pattern :=
      List.inj_on_of_nodup_map registry.distinct (List.mem_of_find?_eq_some hother) hmem htype
    rw [hother, heq]

/-- The type of the pattern that is found names this pattern. -/
theorem get?_of_lookup (h : registry.lookup topic = some found) :
    registry.get? found.pattern.type = some found.pattern :=
  get?_eq_some_iff.mpr ⟨(lookup_eq_some h).1, rfl⟩

/-- A topic is valid if a pattern is found for it. -/
theorem isValid_eq_isSome_lookup (registry : Registry) (topic : String) :
    registry.isValid topic = (registry.lookup topic).isSome := by
  rw [isValid, classify_eq_map_lookup, Option.isSome_map]

/-- A topic of a pattern's type is found by that pattern. -/
theorem exists_lookup_of_classify (hpattern : pattern ∈ registry.topics)
    (h : registry.classify topic = some pattern.type) :
    ∃ found, registry.lookup topic = some found ∧ found.pattern = pattern := by
  rw [classify_eq_map_lookup] at h
  obtain ⟨found, hfound, htype⟩ := Option.map_eq_some_iff.mp h
  refine ⟨found, hfound, ?_⟩
  exact List.inj_on_of_nodup_map registry.distinct (lookup_eq_some hfound).1 hpattern htype

end TopicGate.Registry
