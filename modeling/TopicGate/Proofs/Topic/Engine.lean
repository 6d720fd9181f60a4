import TopicGate.Proofs.Topic.Expression
import TopicGate.Proofs.Topic.Grammar
import TopicGate.Proofs.Topic.Rendering

/-!
# Templates and engines

The expression of a template, read as an expression: it is well formed under every company, and what
it finds in a text are the cuts of the text by the template.  An engine that does what engines promise
therefore refuses no template unless its expression is too big, and the matcher that it makes accepts
what the pattern accepts.

## Main definitions
* `Template.tree`: the expression that is written as the text of a template.
* `Engine.IsFaithful`: what engines promise.

## Main statements
* `Template.toList_expression`, `Template.isWellFormed_tree`: the expression of a template.
* `Template.finds_tree_iff`: what it finds are the cuts by the template.
* `Engine.IsFaithful.accepts_eq`: matchers of an engine accept what patterns accept.
-/

namespace TopicGate

open Expression

/-! ## §1 Templates as expressions -/

/-- Terms that match a text and nothing else. -/
def spelled (text : String) : List Term := text.toList.map fun c => .once (.char c)

/-- A part as an expression. -/
def Part.tree (company : String) : Part → Expression
  | .literal text => (spelled text).map .single
  | .field .company => (spelled company).map .single
  | .field .audience | .field .peer => [.unnamed ⟨spelled "driver", [spelled "passenger"]⟩]
  | .field .identityToken =>
    [.single (.repeated (.set [.range '0' '9', .range 'A' 'Z', .range 'a' 'z']))]
  | .field (.segment name) => [.named name ⟨[.repeated (.complement [.char '/'])], []⟩]

/-- A template as an expression, from the start of a text to its end. -/
def Template.tree (company : String) (template : Template) : Expression :=
  .single .start :: (template.body.flatMap (Part.tree company) ++ [.single .stop])

/-- A text is written by escaping it. -/
theorem toList_escape (text : String) :
    (escape text).toList = Expression.text ((spelled text).map .single) := by
  rw [escape, String.toList_ofList, spelled, Expression.text, List.map_map, List.flatMap_map]
  rfl

theorem Part.toList_expression (company : String) (part : Part) :
    (part.expression company).toList = (part.tree company).text := by
  cases part with
  | literal text => exact toList_escape text
  | field placeholder =>
    cases placeholder with
    | company => exact toList_escape company
    | audience | peer =>
      have htext : ("(?:" ++ "|".intercalate (Audience.all.map Audience.name) ++ ")").toList =
          Expression.text [.unnamed ⟨spelled "driver", [spelled "passenger"]⟩] := by
        decide +kernel
      exact htext
    | identityToken =>
      have htext : "[0-9A-Za-z]+".toList = Expression.text
          [.single (.repeated (.set [.range '0' '9', .range 'A' 'Z', .range 'a' 'z']))] := by
        decide +kernel
      exact htext
    | segment name =>
      have hbehind : ">[^/]+)".toList =
          '>' :: (Choice.text ⟨[.repeated (.complement [.char '/'])], []⟩ ++ [')']) := by
        decide +kernel
      rw [Part.expression, String.toList_append, String.toList_append, List.append_assoc, hbehind,
        Part.tree, Expression.text, List.flatMap_singleton, Factor.text]

namespace Template

theorem expression_eq (company : String) (template : Template) :
    template.expression company =
      "^" ++ String.join (template.body.map (Part.expression company)) ++ "$" := by
  unfold expression
  split
  · next rest hrest =>
    rcases template.parts_cases with ⟨-, hparts⟩ | ⟨-, -, hleads⟩
    · rw [hrest] at hparts
      rw [(List.cons.inj hparts).2]
    · exact absurd hrest (hleads rest)
  · next hleads =>
    rcases template.parts_cases with ⟨-, hparts⟩ | ⟨-, hparts, -⟩
    · exact absurd hparts (hleads _)
    · rw [← hparts]

/-- What is handed to an engine is the text of the template as an expression. -/
theorem toList_expression (company : String) (template : Template) :
    (template.expression company).toList = (template.tree company).text := by
  have hbody : (String.join (template.body.map (Part.expression company))).toList =
      Expression.text (template.body.flatMap (Part.tree company)) := by
    rw [String.toList_join, List.flatMap_map, Expression.text, List.flatMap_assoc]
    exact List.flatMap_congr fun part _ => part.toList_expression company
  have hstop : Expression.text [.single .stop] = "$".toList := rfl
  rw [expression_eq, String.toList_append, String.toList_append, hbody, List.append_assoc, ← hstop,
    Expression.text, Expression.text, ← List.flatMap_append]
  rfl

end Template

/-! ## §2 They are well formed -/

theorem isWellFormed_spelled (text : String) : ∀ term ∈ spelled text, term.IsWellFormed := by
  intro term hterm
  obtain ⟨c, -, rfl⟩ := List.mem_map.mp hterm
  trivial

/-- A part is a well-formed expression. -/
theorem Part.isWellFormed_tree {part : Part} (hproper : part.IsProper) (company : String) :
    ∀ factor ∈ part.tree company, factor.IsWellFormed := by
  have hspelled : ∀ text, ∀ factor ∈ (spelled text).map Factor.single, factor.IsWellFormed := by
    intro text factor hfactor
    obtain ⟨term, hterm, rfl⟩ := List.mem_map.mp hfactor
    exact isWellFormed_spelled text term hterm
  cases part with
  | literal text => exact hspelled text
  | field placeholder =>
    cases placeholder with
    | company => exact hspelled company
    | audience | peer =>
      intro factor hfactor
      obtain rfl := List.mem_singleton.mp hfactor
      refine ⟨isWellFormed_spelled _, fun terms hterms => ?_⟩
      obtain rfl := List.mem_singleton.mp hterms
      exact isWellFormed_spelled _
    | identityToken =>
      intro factor hfactor
      obtain rfl := List.mem_singleton.mp hfactor
      refine ⟨by simp, fun item hitem => ?_⟩
      simp only [List.mem_cons, List.not_mem_nil, or_false] at hitem
      rcases hitem with rfl | rfl | rfl <;> exact ⟨by decide, by decide, by decide⟩
    | segment name =>
      -- The name of a segment is an identifier, as that of a group has to be.
      intro factor hfactor
      obtain rfl := List.mem_singleton.mp hfactor
      refine ⟨hproper.1, fun term hterm => ?_, by simp⟩
      obtain rfl := List.mem_singleton.mp hterm
      refine ⟨by simp, fun item hitem => ?_⟩
      obtain rfl := List.mem_singleton.mp hitem
      exact (by decide : isMeta '/' = false)

/-- The groups of a part are its segments. -/
theorem Part.names_tree (company : String) (part : Part) :
    (part.tree company).names = Part.segmentNames [part] := by
  have hspelled : ∀ text, Expression.names ((spelled text).map .single) = [] := by
    intro text
    rw [Expression.names, List.filterMap_map]
    exact List.filterMap_eq_nil_iff.mpr fun _ _ => rfl
  cases part with
  | literal text => exact hspelled text
  | field placeholder =>
    cases placeholder with
    | company => exact hspelled company
    | audience | peer | identityToken | segment name => rfl

theorem names_flatMap_tree (company : String) (parts : List Part) :
    Expression.names (parts.flatMap (Part.tree company)) = Part.segmentNames parts := by
  induction parts with
  | nil => rfl
  | cons part parts ih =>
    have hcons : Part.segmentNames (part :: parts) =
        Part.segmentNames [part] ++ Part.segmentNames parts := by
      simp only [Part.segmentNames, ← List.filterMap_append, List.singleton_append]
    rw [List.flatMap_cons, Expression.names, List.filterMap_append, hcons, ← part.names_tree company,
      ← ih]
    rfl

namespace Template

/-- A company in front is no segment. -/
theorem segmentNames_body (template : Template) :
    Part.segmentNames template.body = template.segmentNames := by
  rw [segmentNames]
  rcases template.parts_cases with ⟨-, hparts⟩ | ⟨-, hparts, -⟩
  · rw [hparts]
    rfl
  · rw [hparts]

/-- Whatever the company, the literal text and the names of the segments, a template is a well-formed
expression. -/
theorem isWellFormed_tree {source : String} {template : Template} (h : parse source = .ok template)
    (company : String) : (template.tree company).IsWellFormed := by
  obtain ⟨lexemes, hlexed⟩ := exists_isLexed source.toList
  obtain ⟨hgrammatical, hparts⟩ := parts_of_parse hlexed h
  have hnormal : IsNormal template.parts := by
    rw [hparts]
    exact isNormal_partsOf (by simp) hgrammatical.proper
  constructor
  · intro factor hfactor
    simp only [tree, List.mem_cons, List.mem_append, List.mem_flatMap, List.not_mem_nil,
      or_false] at hfactor
    rcases hfactor with rfl | ⟨part, hpart, hfactor⟩ | rfl
    · trivial
    · exact Part.isWellFormed_tree (hnormal.proper part (template.body_subset hpart)) company factor
        hfactor
    · trivial
  · -- The anchors name nothing.
    have hnames : (template.tree company).names = Part.segmentNames template.body := by
      rw [← names_flatMap_tree company template.body, tree, Expression.names, Expression.names,
        List.filterMap_cons_none rfl, List.filterMap_append]
      exact List.append_nil _
    rw [hnames, template.segmentNames_body]
    exact template.distinct

end Template

/-! ## §3 What they find -/

/-- What matches the characters of a text one by one. -/
theorem flatten_spelled (text : String) : (text.toList.map fun c => [c]).flatten = text.toList := by
  rw [← List.flatMap_def, List.flatMap_singleton']

theorem choice_spelled_iff {text text' : String} {before piece behind : List Char} :
    (Choice.mk (spelled text) [spelled text']).Matches before piece behind ↔
      piece = text.toList ∨ piece = text'.toList := by
  have hspelled : ∀ text : String, (∃ pieces, piece = pieces.flatten ∧
      Sequence Term.Matches (spelled text) before pieces behind) ↔ piece = text.toList := by
    intro text
    have hsequence : ∀ pieces, Sequence Term.Matches (spelled text) before pieces behind ↔
        pieces = text.toList.map fun c => [c] := fun pieces =>
      Sequence.map_iff (by simp [Term.Matches, Atom.Accepts])
    simp only [hsequence, exists_eq_right, flatten_spelled]
  simp only [Choice.Matches, List.mem_cons, List.not_mem_nil, or_false, exists_eq_or_imp,
    exists_eq_left, hspelled]

theorem matches_spelled_iff {text : String} {before piece behind : List Char}
    {captures : List (String × String)} :
    Expression.Matches ((spelled text).map .single) before piece behind captures ↔
      piece = text.toList ∧ captures = [] := by
  have hsequence : ∀ pieces, Sequence Factor.Matches ((spelled text).map .single) before pieces behind ↔
      pieces = text.toList.map fun c => [c] := by
    intro pieces
    rw [spelled, List.map_map]
    exact Sequence.map_iff (by simp [Factor.Matches, Term.Matches, Atom.Accepts])
  -- Characters alone capture nothing.
  have hcaptures : ∀ pieces : List (List Char),
      (((spelled text).map .single).zip pieces).filterMap Factor.capture? = [] := by
    intro pieces
    refine List.filterMap_eq_nil_iff.mpr fun entry hentry => ?_
    obtain ⟨term, -, hterm⟩ := List.mem_map.mp (List.of_mem_zip hentry).1
    obtain ⟨factor, piece⟩ := entry
    obtain rfl : Factor.single term = factor := hterm
    rfl
  simp only [Expression.Matches, hsequence, hcaptures]
  constructor
  · rintro ⟨_, rfl, rfl, rfl⟩
    exact ⟨flatten_spelled text, rfl⟩
  · rintro ⟨rfl, rfl⟩
    exact ⟨_, (flatten_spelled text).symm, rfl, rfl⟩

/-- What a part matches is what it takes behind the front of a template. -/
theorem Part.matches_tree_iff {company : String} {part : Part} {before piece behind : List Char}
    {captures : List (String × String)} :
    (part.tree company).Matches before piece behind captures ↔
      part.Takes company false piece ∧
        captures = (TopicPattern.capture? (part, piece)).toList := by
  cases part with
  | literal text => exact matches_spelled_iff
  | field placeholder =>
    cases placeholder with
    | company => exact matches_spelled_iff
    | audience | peer =>
      rw [Part.tree, matches_singleton_iff, Factor.Matches, choice_spelled_iff]
      rfl
    | identityToken =>
      rw [Part.tree, matches_singleton_iff]
      simp [Factor.Matches, Term.Matches, Atom.Accepts, SetItem.Has, Part.Takes, IsTokenSymbol,
        Factor.capture?, TopicPattern.capture?]
    | segment name =>
      have hchoice : (Choice.mk [.repeated (.complement [.char '/'])] []).Matches before piece behind ↔
          piece ≠ [] ∧ ∀ c ∈ piece, c ≠ '/' := by
        simp [Choice.Matches, Sequence.singleton_iff, Term.Matches, Atom.Accepts, SetItem.Has]
      rw [Part.tree, matches_singleton_iff, Factor.Matches, hchoice]
      rfl

/-- What parts match are the texts that they cut behind the front of a template. -/
theorem matches_parts_iff {company : String} {parts : List Part} {before text behind : List Char}
    {captures : List (String × String)} :
    Expression.Matches (parts.flatMap (Part.tree company)) before text behind captures ↔
      ∃ cut, IsPartsCut company false parts text cut ∧
        captures = (parts.zip cut).filterMap TopicPattern.capture? := by
  induction parts generalizing before text captures with
  | nil =>
    rw [List.flatMap_nil, matches_nil_iff]
    constructor
    · rintro ⟨rfl, rfl⟩
      exact ⟨[], .nil, rfl⟩
    · rintro ⟨cut, hcut, rfl⟩
      cases hcut
      exact ⟨rfl, rfl⟩
  | cons part parts ih =>
    have hcapture : ∀ piece (pieces : Cut), ((part :: parts).zip (piece :: pieces)).filterMap
        TopicPattern.capture? = (TopicPattern.capture? (part, piece)).toList ++
          (parts.zip pieces).filterMap TopicPattern.capture? := by
      intro piece pieces
      rw [List.zip_cons_cons, List.filterMap_cons]
      cases TopicPattern.capture? (part, piece) <;> rfl
    rw [List.flatMap_cons, matches_append_iff]
    simp only [Part.matches_tree_iff, ih, isPartsCut_cons_iff]
    constructor
    · rintro ⟨piece, rest, _, _, rfl, rfl, ⟨htakes, rfl⟩, pieces, hpieces, rfl⟩
      exact ⟨piece :: pieces, ⟨piece, pieces, rest, rfl, rfl, htakes, hpieces⟩,
        (hcapture piece pieces).symm⟩
    · rintro ⟨_, ⟨piece, pieces, rest, rfl, rfl, htakes, hpieces⟩, rfl⟩
      exact ⟨piece, rest, _, _, rfl, hcapture piece pieces, ⟨htakes, rfl⟩, pieces, hpieces, rfl⟩

namespace Template

/-- Between anchors at both ends an expression has to match the whole text. -/
theorem finds_anchored_iff {expression : Expression} {text : List Char}
    {captures : List (String × String)} :
    Expression.Finds (.single .start :: (expression ++ [.single .stop])) text captures ↔
      expression.Matches [] text [] captures := by
  have hcons : Factor.single .start :: (expression ++ [.single .stop]) =
      [.single .start] ++ (expression ++ [.single .stop]) := rfl
  rw [Expression.Finds, hcons]
  simp only [matches_append_iff, matches_singleton_iff, Factor.Matches, Term.Matches,
    Factor.capture?, Option.toList_none]
  constructor
  · -- Nothing stands before the first anchor and nothing behind the last one.
    rintro ⟨_, _, _, rfl, _, _, _, _, rfl, rfl, ⟨⟨rfl, rfl⟩, rfl⟩, found, _, captured, _, rfl, rfl,
      hmatches, ⟨rfl, rfl⟩, rfl⟩
    simpa using hmatches
  · intro hmatches
    refine ⟨[], text, [], by simp, [], text, [], captures, rfl, rfl, ⟨⟨rfl, rfl⟩, rfl⟩, text, [],
      captures, [], by simp, by simp, by simpa using hmatches, ⟨rfl, rfl⟩, rfl⟩

/-- A company in front captures nothing. -/
theorem filterMap_capture?_body (template : Template) (pieces : Cut) :
    (template.parts.zip (if template.startsWithCompany then [] :: pieces else pieces)).filterMap
        TopicPattern.capture? =
      (template.body.zip pieces).filterMap TopicPattern.capture? := by
  rcases template.parts_cases with ⟨hstarts, hparts⟩ | ⟨hstarts, hparts, -⟩
  · rw [hparts, hstarts, if_pos rfl, List.zip_cons_cons]
    exact List.filterMap_cons_none rfl
  · rw [hparts, hstarts]
    rfl

/-- **What a template finds.**  The expression of a template finds something in a text exactly if the
text can be cut by the template, and captures the pieces of the segments. -/
theorem finds_tree_iff {template : Template} {company text : String}
    {captures : List (String × String)} :
    (template.tree company).Finds text.toList captures ↔
      ∃ cut, template.IsCut company text cut ∧
        captures = (template.parts.zip cut).filterMap TopicPattern.capture? := by
  rw [tree, finds_anchored_iff, matches_parts_iff]
  simp only [isCut_iff]
  constructor
  · rintro ⟨pieces, hpieces, rfl⟩
    exact ⟨_, ⟨pieces, rfl, hpieces⟩, (template.filterMap_capture?_body pieces).symm⟩
  · rintro ⟨_, ⟨pieces, rfl, hpieces⟩, rfl⟩
    exact ⟨pieces, hpieces, template.filterMap_capture?_body pieces⟩

end Template

/-! ## §4 Engines -/

/-- What engines promise, of `accepts` as the answer of a matcher about a text.  A well-formed
expression is refused only if it is too big, and its matcher accepts the texts in which it finds
something. -/
structure Engine.IsFaithful {μ : Type} (engine : Engine μ) (accepts : μ → String → Bool) : Prop where
  reads : ∀ expression : Expression, expression.IsWellFormed → ∀ message,
    engine (String.ofList expression.text) ≠ .error (.malformed message)
  accepts_iff : ∀ expression : Expression, expression.IsWellFormed → ∀ made,
    engine (String.ofList expression.text) = .ok made → ∀ text,
      accepts made text = true ↔ ∃ captures, expression.Finds text.toList captures

/-- The engine that refuses texts of no expression, and expressions whose text is longer than
`limit`. -/
noncomputable def limitedEngine (limit : Nat) : Engine Expression := fun text =>
  open Classical in
  if h : ∃ expression : Expression, expression.IsWellFormed ∧ expression.text = text.toList then
    if limit < text.length then .error (.tooBig limit) else .ok h.choose
  else .error (.malformed "no expression")

/-- What an expression accepts. -/
noncomputable def Expression.accepts (expression : Expression) (text : String) : Bool :=
  open Classical in
  decide (∃ captures, expression.Finds text.toList captures)

/-- A text is read as the expression that it is written for. -/
theorem limitedEngine_text (limit : Nat) {expression : Expression} (h : expression.IsWellFormed) :
    limitedEngine limit (String.ofList expression.text) =
      if limit < expression.text.length then .error (.tooBig limit) else .ok expression := by
  have htext : ∃ expression' : Expression, expression'.IsWellFormed ∧
      expression'.text = (String.ofList expression.text).toList :=
    ⟨expression, h, String.toList_ofList.symm⟩
  -- No other expression is written as this text, so it is this one that is chosen.
  obtain ⟨hread, htexts⟩ := htext.choose_spec
  have hchoose : htext.choose = expression :=
    text_inj hread h (htexts.trans String.toList_ofList)
  rw [limitedEngine, dif_pos htext, hchoose, String.length_ofList]

theorem isFaithful_limitedEngine (limit : Nat) :
    (limitedEngine limit).IsFaithful Expression.accepts := by
  constructor
  · intro expression h message
    rw [limitedEngine_text limit h]
    split <;> exact fun heq => by cases heq
  · intro expression h made hmade text
    rw [limitedEngine_text limit h] at hmade
    split at hmade
    · cases hmade
    · obtain rfl := Except.ok.inj hmade
      simp only [Expression.accepts, decide_eq_true_eq]

section

variable {μ : Type} {engine : Engine μ} {accepts : μ → String → Bool} {source : String}
  {template : Template} {company : String}

theorem Engine.matcher_eq (engine : Engine μ) (company : String) (template : Template) :
    engine.matcher company template = engine (String.ofList (template.tree company).text) := by
  rw [matcher, ← template.toList_expression, String.ofList_toList]

namespace Engine.IsFaithful

/-- No template is refused as malformed. -/
theorem exists_tooBig (h : engine.IsFaithful accepts) (hparse : Template.parse source = .ok template)
    {e : EngineError} (he : engine.matcher company template = .error e) :
    ∃ limit, e = .tooBig limit := by
  cases e with
  | tooBig limit => exact ⟨limit, rfl⟩
  | malformed message =>
    rw [matcher_eq] at he
    exact absurd he (h.reads _ (Template.isWellFormed_tree hparse company) message)

/-- **Matchers of an engine.**  They accept what the pattern accepts. -/
theorem accepts_eq (h : engine.IsFaithful accepts) {pattern : TopicPattern}
    (hparse : Template.parse source = .ok pattern.template) {made : μ}
    (hmade : engine.matcher company pattern.template = .ok made) (text : String) :
    accepts made text = pattern.accepts company text := by
  rw [matcher_eq] at hmade
  have hcuts : (∃ captures, (pattern.template.tree company).Finds text.toList captures) ↔
      ∃ cut, pattern.template.IsCut company text cut := by
    simp only [Template.finds_tree_iff]
    exact ⟨fun ⟨_, cut, hcut, _⟩ => ⟨cut, hcut⟩, fun ⟨cut, hcut⟩ => ⟨_, cut, hcut, rfl⟩⟩
  rw [Bool.eq_iff_iff, h.accepts_iff _ (Template.isWellFormed_tree hparse company) made hmade, hcuts]
  exact Template.isSome_cut?_steps_iff.symm

end Engine.IsFaithful

end

end TopicGate
