import TopicGate.Proofs.Topic.Lookup
import TopicGate.Proofs.Topic.Recognition

/-!
# Shadowed patterns

The report on shadowed patterns against what a lookup answers.  For every audience a sample topic is
rendered from each pattern, and the first earlier pattern that accepts it is reported.  Accepting is
less than taking: an earlier pattern that begins with the company takes only topics that carry it,
and the report does not ask whether the sample does.

## Main definitions
* `Registry.IsSample`: a sample topic with the first of some patterns that accepts it.
* `Registry.Precedes`: one pattern is declared before another.

## Main statements
* `mem_shadowed_iff`: what is reported.
* `classify_sample_of_shadowed`: which of the reported patterns really lose their sample.
* `unreachable_reported`: a pattern behind the company that is never chosen is reported.
-/

namespace TopicGate.Registry

variable {registry : Registry} {before behind patterns : List TopicPattern}
  {first pattern : TopicPattern} {audience : Audience} {earlier later : String}

/-! ## §1 The report -/

/-- The sample topic of a pattern for an audience is a topic, and `first` is the first of the
patterns `before` that accepts what is left of it without the company. -/
structure IsSample (registry : Registry) (before : List TopicPattern) (pattern : TopicPattern)
    (audience : Audience) (first : TopicPattern) : Prop where
  ne_empty : registry.sample pattern audience ≠ ""
  first_eq : before.find? (fun other => other.accepts registry.company
    (registry.strip (registry.sample pattern audience)).1) = some first

/-- What shadows a pattern accepts one of its samples. -/
theorem exists_isSample_of_shadower? (h : registry.shadower? before pattern = some first) :
    ∃ audience, registry.IsSample before pattern audience first := by
  obtain ⟨audience, -, hsample⟩ := List.exists_of_findSome?_eq_some h
  simp only at hsample
  split at hsample
  · cases hsample
  · next hne => exact ⟨audience, hne, hsample⟩

/-- A pattern is shadowed as soon as an earlier one accepts one of its samples. -/
theorem exists_shadower? (hne : registry.sample pattern audience ≠ "")
    {other : TopicPattern} (hother : other ∈ before)
    (haccepts : other.accepts registry.company
      (registry.strip (registry.sample pattern audience)).1 = true) :
    ∃ first, registry.shadower? before pattern = some first := by
  rw [← Option.isSome_iff_exists, shadower?, List.findSome?_isSome_iff]
  refine ⟨audience, by cases audience <;> decide, ?_⟩
  simp only [if_neg hne, List.find?_isSome]
  exact ⟨other, hother, haccepts⟩

/-- What is reported of consecutive patterns is what each of them is shadowed by. -/
theorem mem_shadowedFrom_iff {pair : String × String} :
    pair ∈ registry.shadowedFrom before patterns ↔
      ∃ between pattern behind first, patterns = between ++ pattern :: behind ∧
        registry.shadower? (before ++ between) pattern = some first ∧
        pair = (first.type, pattern.type) := by
  induction patterns generalizing before with
  | nil => simp [shadowedFrom]
  | cons head rest ih =>
    simp only [shadowedFrom, List.mem_append, ih]
    constructor
    · rintro (hhere | ⟨between, pattern, behind, first, rfl, hfirst, rfl⟩)
      · split at hhere
        · next first hfirst =>
          refine ⟨[], head, rest, first, rfl, ?_, List.mem_singleton.mp hhere⟩
          rwa [List.append_nil]
        · cases hhere
      · refine ⟨head :: between, pattern, behind, first, rfl, ?_, rfl⟩
        rwa [List.append_assoc] at hfirst
    · rintro ⟨between, pattern, behind, first, hsplit, hfirst, rfl⟩
      -- The reported pattern is the head, or it stands behind it.
      cases between with
      | nil =>
        obtain ⟨rfl, -⟩ := List.cons.inj hsplit
        rw [List.append_nil] at hfirst
        simp [hfirst]
      | cons other between =>
        obtain ⟨rfl, hrest⟩ := List.cons.inj hsplit
        refine Or.inr ⟨between, pattern, behind, first, hrest, ?_, rfl⟩
        rwa [List.append_assoc]

theorem mem_shadowed_iff :
    (earlier, later) ∈ registry.shadowed ↔
      ∃ before pattern behind first, registry.topics = before ++ pattern :: behind ∧
        registry.shadower? before pattern = some first ∧
        first.type = earlier ∧ pattern.type = later := by
  simp only [shadowed, mem_shadowedFrom_iff, List.nil_append, Prod.mk.injEq, eq_comm]

/-- What is reported of patterns is reported of them whatever follows. -/
theorem shadowedFrom_append (registry : Registry) (before patterns others : List TopicPattern) :
    registry.shadowedFrom before (patterns ++ others) =
      registry.shadowedFrom before patterns ++ registry.shadowedFrom (before ++ patterns) others := by
  induction patterns generalizing before with
  | nil => rw [List.nil_append, List.append_nil, shadowedFrom, List.nil_append]
  | cons head rest ih =>
    rw [List.cons_append, shadowedFrom, shadowedFrom, ih, List.append_assoc, List.append_assoc,
      List.singleton_append]

/-! ## §2 Samples -/

/-- The fields of a sample have a value of the right kind for every placeholder of the pattern. -/
theorem fits_sampleFields (registry : Registry) (pattern : TopicPattern) (audience : Audience) :
    (registry.sampleFields pattern audience).Fits registry.company
      pattern.template.segmentNames where
  company_eq := rfl
  audience := rfl
  peer := rfl
  token := by
    refine ⟨"sample0", rfl, by decide, fun c hc => ?_⟩
    have hsymbols : "sample0".toList.all isTokenChar = true := by decide
    exact isTokenChar_eq_true_iff.mp (List.all_eq_true.mp hsymbols c hc)
  segments := by
    intro name hname
    have hnodup : ((pattern.template.segmentNames.map fun name => (name, "sample")).map
        Prod.fst).Nodup := by
      rw [List.map_map]
      exact (List.map_id _).symm ▸ pattern.template.distinct
    refine ⟨"sample", (TextMap.get?_ofList_eq_some_iff hnodup).mpr ?_, by decide, by decide⟩
    exact List.mem_map_of_mem hname

/-- The sample of a pattern that begins with the company carries it. -/
theorem exists_sample_eq (hleads : pattern.requiresTenantPrefix = true) (audience : Audience) :
    ∃ rest, registry.sample pattern audience = registry.company ++ rest := by
  obtain ⟨rest, cut, hrender, -, -⟩ :=
    Template.exists_isCut_of_fits (registry.fits_sampleFields pattern audience)
  have hstarts : pattern.template.startsWithCompany = true := hleads
  rw [if_pos hstarts] at hrender
  refine ⟨rest, ?_⟩
  rw [sample, TopicPattern.render, Template.render, hrender, Option.getD_some]

/-! ## §3 Reported patterns -/

/-- One pattern is declared before another. -/
def Precedes (registry : Registry) (first pattern : TopicPattern) : Prop :=
  ∃ i j : Nat, i < j ∧ registry.topics[i]? = some first ∧ registry.topics[j]? = some pattern

theorem precedes_of_mem (htopics : registry.topics = before ++ pattern :: behind)
    (hfirst : first ∈ before) : registry.Precedes first pattern := by
  obtain ⟨i, hi⟩ := List.getElem?_of_mem hfirst
  have hlt : i < before.length := (List.getElem?_eq_some_iff.mp hi).1
  refine ⟨i, before.length, hlt, ?_, ?_⟩
  · rw [htopics, List.getElem?_append_left hlt, hi]
  · rw [htopics, List.getElem?_append_right (Nat.le_refl _), Nat.sub_self, List.getElem?_cons_zero]

/-- The first of the declared patterns that accepts a topic is chosen for it, provided that the
topic carries the company where the pattern begins with it. -/
theorem classify_eq_type_iff {topic : String} (htopics : registry.topics = before ++ first :: behind)
    (hbefore : ∀ other ∈ before,
      ¬other.accepts registry.company (registry.strip topic).1 = true)
    (haccepts : first.accepts registry.company (registry.strip topic).1 = true) :
    registry.classify topic = some first.type ↔
      (first.requiresTenantPrefix = true → registry.Carries topic) := by
  constructor
  · intro hclassify
    have hfirst : first ∈ registry.topics := by simp [htopics]
    obtain ⟨found, hfound, rfl⟩ := exists_lookup_of_classify hfirst hclassify
    exact (lookup_eq_some hfound).2.1
  · intro hcarries
    have htakes : registry.Takes topic first := ⟨haccepts, hcarries⟩
    obtain ⟨found, hfound, hplace⟩ :=
      exists_lookup_of_match? htopics (isSome_match?_iff.mpr htakes)
    -- No pattern in front accepts the topic, let alone takes it.
    have hpattern : found.pattern = first := by
      apply hplace.resolve_left
      intro hmem
      exact hbefore found.pattern hmem (takes_of_lookup hfound).accepts
    rw [classify_eq_map_lookup, hfound, Option.map_some, hpattern]

/-- **A reported pattern loses its sample, unless the sample does not carry the company.**  Every
reported pair is an earlier and a later pattern, and the earlier one accepts what is left of a sample
topic of the later without the company.  This sample is of the earlier type exactly if it carries the
company or the earlier pattern does not begin with it; it always is if the later pattern begins with
the company itself. -/
theorem classify_sample_of_shadowed (h : (earlier, later) ∈ registry.shadowed) :
    ∃ first pattern audience, registry.Precedes first pattern ∧ first.type = earlier ∧
      pattern.type = later ∧
      first.accepts registry.company
        (registry.strip (registry.sample pattern audience)).1 = true ∧
      (registry.classify (registry.sample pattern audience) = some earlier ↔
        (first.requiresTenantPrefix = true →
          registry.Carries (registry.sample pattern audience))) ∧
      (pattern.requiresTenantPrefix = true →
        registry.classify (registry.sample pattern audience) = some earlier) := by
  obtain ⟨before, pattern, behind, first, htopics, hfirst, rfl, rfl⟩ := mem_shadowed_iff.mp h
  obtain ⟨audience, -, hsample⟩ := exists_isSample_of_shadower? hfirst
  obtain ⟨haccepts, front, rest, hbefore, hfront⟩ := List.find?_eq_some_iff_append.mp hsample
  have hplace : registry.topics = front ++ first :: (rest ++ pattern :: behind) := by
    rw [htopics, hbefore, List.append_assoc, List.cons_append]
  have hclassify : registry.classify (registry.sample pattern audience) = some first.type ↔
      (first.requiresTenantPrefix = true →
        registry.Carries (registry.sample pattern audience)) := by
    apply classify_eq_type_iff hplace _ haccepts
    intro other hother
    simpa using hfront other hother
  refine ⟨first, pattern, audience, precedes_of_mem htopics (List.mem_of_find?_eq_some hsample),
    rfl, rfl, haccepts, hclassify, ?_⟩
  intro hleads
  obtain ⟨text, htext⟩ := registry.exists_sample_eq hleads audience
  refine hclassify.mpr fun _ => ?_
  rw [htext]
  exact ⟨text.toList, String.toList_append.symm⟩

/-! ### Feeds of one audience and of both -/

/-- The feed of each passenger. -/
def passengerFeed : TopicPattern where
  type := "passenger_feed"
  template :=
    { parts := [.field .company, .literal "/passenger/", .field .identityToken]
      distinct := by decide }
  hashKind := .identity
  accesses := ⟨none, none⟩

/-- The feed of each caller. -/
def audienceFeed : TopicPattern where
  type := "audience_feed"
  template :=
    { parts := [.field .company, .literal "/", .field .audience, .literal "/",
        .field .identityToken]
      distinct := by decide }
  hashKind := .identity
  accesses := ⟨none, none⟩

def feeds : Registry where
  company := "snapp"
  topics := [passengerFeed, audienceFeed]
  distinct := by decide

/-- Only the passengers lose their feeds to the pattern in front. -/
theorem classify_sample_of_shadowed_feeds :
    ("passenger_feed", "audience_feed") ∈ feeds.shadowed ∧
      feeds.classify "snapp/driver/sample0" = some "audience_feed" ∧
      ∃ audience, feeds.classify (feeds.sample audienceFeed audience) = some "passenger_feed" := by
  have hshadowed : ("passenger_feed", "audience_feed") ∈ feeds.shadowed := by decide +kernel
  refine ⟨hshadowed, by decide +kernel, ?_⟩
  obtain ⟨first, pattern, audience, ⟨i, j, -, -, hpattern⟩, -, htype, -, -, hclassify⟩ :=
    classify_sample_of_shadowed hshadowed
  -- The type names the pattern.
  have hget := get?_eq_some_iff.mpr ⟨List.mem_of_getElem? hpattern, htype⟩
  obtain rfl : audienceFeed = pattern := Option.some.inj hget
  exact ⟨audience, hclassify rfl⟩

/-! ### News of the tenant and of the house -/

/-- The declarations of news behind the company and of the same text without it. -/
def newsAndBulletin : List TopicDefinition :=
  [{ type := "news", template := "\x7bcompany\x7d/news" },
    { type := "bulletin", template := "/news" }]

def tenantNews : TopicPattern where
  type := "news"
  template := { parts := [.field .company, .literal "/news"], distinct := by decide }
  hashKind := .identity
  accesses := ⟨none, none⟩

def bulletin : TopicPattern where
  type := "bulletin"
  template := { parts := [.literal "/news"], distinct := List.nodup_nil }
  hashKind := .identity
  accesses := ⟨none, none⟩

def bulletins : Registry where
  company := "snapp"
  topics := [tenantNews, bulletin]
  distinct := by decide

/-- A pattern is reported as shadowed although it keeps its samples: the pattern in front begins with
the company, and no sample carries it. -/
theorem bulletin_reported_but_kept :
    ofDefinitions "snapp" newsAndBulletin = .ok bulletins ∧
      ("news", "bulletin") ∈ bulletins.shadowed ∧
      ∀ audience, bulletins.classify (bulletins.sample bulletin audience) = some "bulletin" := by
  refine ⟨?_, by decide +kernel, fun audience => ?_⟩
  · apply ofDefinitions_eq_ok_iff.mpr
    exact ⟨rfl, .cons (by decide +kernel) (.cons (by decide +kernel) .nil)⟩
  · cases audience <;> decide +kernel

/-! ## §4 Patterns that are never chosen -/

/-- **A pattern behind the company that is never chosen is reported.**  Its samples are recognised,
and if they are not its own, an earlier pattern accepts them. -/
theorem unreachable_reported (hcompany : registry.company ≠ "")
    (hpattern : pattern ∈ registry.topics) (hleads : pattern.requiresTenantPrefix = true)
    (hnever : ∀ topic, registry.classify topic ≠ some pattern.type) :
    ∃ earlier, (earlier, pattern.type) ∈ registry.shadowed := by
  obtain ⟨⟨before, behind, found, htopics, hfound, hplace⟩, -⟩ :=
    recognizes_render hpattern hleads (registry.fits_sampleFields pattern .driver)
  have hmem : found.pattern ∈ before := by
    apply hplace.resolve_right
    intro heq
    apply hnever (pattern.render (registry.sampleFields pattern .driver))
    rw [classify_eq_map_lookup, hfound, Option.map_some, heq]
  have haccepts : found.pattern.accepts registry.company
      (registry.strip (registry.sample pattern .driver)).1 = true :=
    (takes_of_lookup hfound).accepts
  -- Behind a company that is not empty no sample is.
  have hne : registry.sample pattern .driver ≠ "" := by
    obtain ⟨rest, hrest⟩ := registry.exists_sample_eq hleads .driver
    rw [hrest]
    intro hempty
    exact hcompany (String.append_eq_empty_iff.mp hempty).1
  obtain ⟨first, hfirst⟩ := exists_shadower? hne hmem haccepts
  exact ⟨first.type, mem_shadowed_iff.mpr ⟨before, pattern, behind, first, htopics, hfirst, rfl, rfl⟩⟩

/-! ### News behind all boards -/

def board : TopicPattern where
  type := "board"
  template :=
    { parts := [.field .company, .literal "/", .field (.segment "board")], distinct := by decide }
  hashKind := .identity
  accesses := ⟨none, none⟩

def boards : Registry where
  company := "snapp"
  topics := [board, tenantNews]
  distinct := by decide

/-- The only topic of the news is the board of that name. -/
theorem unreachable_reported_boards :
    tenantNews ∈ boards.topics ∧ (∀ topic, boards.classify topic ≠ some "news") ∧
      ∃ earlier, (earlier, "news") ∈ boards.shadowed := by
  have hmem : tenantNews ∈ boards.topics := by decide
  have hnever : ∀ topic, boards.classify topic ≠ some "news" := by
    intro topic hclassify
    obtain ⟨found, hfound, hpattern⟩ := exists_lookup_of_classify hmem hclassify
    obtain ⟨haccepts, hcarries⟩ := takes_of_lookup hfound
    rw [hpattern] at haccepts hcarries
    -- The topic carries the company, and only one text is accepted behind it.
    rcases boards.strip_cases topic with ⟨-, rest, rfl, hstrip⟩ | ⟨hnot, -⟩
    · rw [hstrip] at haccepts
      obtain ⟨cut, hcut⟩ := Template.isSome_cut?_steps_iff.mp haccepts
      obtain ⟨pieces, -, hpieces⟩ := Template.isCut_iff.mp hcut
      obtain ⟨piece, others, text, -, htext, htakes, hothers⟩ := isPartsCut_cons_iff.mp hpieces
      cases hothers
      obtain rfl : piece = "/news".toList := htakes
      obtain rfl : rest = "/news" := String.toList_inj.mp (by rw [htext, List.append_nil])
      exact absurd hclassify (by decide +kernel)
    · exact hnot (hcarries rfl)
  exact ⟨hmem, hnever, unreachable_reported (by decide) hmem rfl hnever⟩

end TopicGate.Registry
