import TopicGate.Audience
import TopicGate.TextMap

/-!
# Topic templates

A template is text with `{name}` placeholders.  Four names are well known: the tenant's company, the
audience of the caller, its peer, and the identity token.  Every other identifier names a segment
whose value a topic brings along.

## Sections
1. Placeholders and parts
2. Reading a template
3. Queries
4. Fields
5. Rendering
-/

namespace TopicGate

/-! ## §1 Placeholders and parts -/

/-- What stands between braces. -/
inductive Placeholder where
  | company
  | audience
  | peer
  | identityToken
  | segment (name : String)
deriving Repr, DecidableEq

namespace Placeholder

def name : Placeholder → String
  | company => "company"
  | audience => "audience"
  | peer => "peer"
  | identityToken => "identityToken"
  | segment name => name

/-- The placeholder with a given name. -/
def ofName (name : String) : Placeholder :=
  if name = "company" then company
  else if name = "audience" then audience
  else if name = "peer" then peer
  else if name = "identityToken" then identityToken
  else segment name

/-- Whether the value depends on who is asking. -/
def isIdentityScoped : Placeholder → Bool
  | audience | peer | identityToken => true
  | company | segment _ => false

def segmentName? : Placeholder → Option String
  | segment name => some name
  | _ => none

end Placeholder

/-- A stretch of literal text, or a placeholder. -/
inductive Part where
  | literal (text : String)
  | field (placeholder : Placeholder)
deriving Repr, DecidableEq

/-- The part as it is written in a template. -/
def Part.source : Part → String
  | literal text => text
  | field placeholder => "\x7b" ++ placeholder.name ++ "\x7d"

def Part.placeholder? : Part → Option Placeholder
  | literal _ => none
  | field placeholder => some placeholder

/-- The names of the segments in consecutive parts. -/
def Part.segmentNames (parts : List Part) : List String :=
  (parts.filterMap Part.placeholder?).filterMap Placeholder.segmentName?

/-- A parsed template.  No segment is named twice. -/
structure Template where
  parts : List Part
  distinct : (Part.segmentNames parts).Nodup
deriving Repr, DecidableEq

/-! ## §2 Reading a template -/

/-- What is wrong with a template.  Positions are offsets in UTF-8 bytes. -/
inductive TemplateError where
  | unclosedPlaceholder (position : Nat)
  | unexpectedClose (position : Nat)
  | emptyPlaceholder (position : Nat)
  /-- The text between the braces is no identifier. -/
  | invalidPlaceholder (name : String)
  | duplicateSegment (name : String)
deriving Repr, DecidableEq

def TemplateError.message : TemplateError → String
  | unclosedPlaceholder position => "unclosed placeholder starting at byte " ++ toString position
  | unexpectedClose position => "unexpected '\x7d' at byte " ++ toString position
  | emptyPlaceholder position => "empty placeholder at byte " ++ toString position
  | invalidPlaceholder name => "placeholder '" ++ name ++ "' is not a valid identifier"
  | duplicateSegment name => "placeholder '" ++ name ++ "' appears more than once"

namespace Template

/-- ASCII letters and the underscore begin an identifier. -/
def isIdentifierStart (c : Char) : Bool := c.isAlpha || c == '_'

/-- ASCII letters, digits and the underscore continue one. -/
def isIdentifierRest (c : Char) : Bool := c.isAlphanum || c == '_'

def isIdentifier : List Char → Bool
  | [] => false
  | c :: rest => isIdentifierStart c && rest.all isIdentifierRest

/-- The placeholder written with `name` between braces that open at byte `position`, where the
segments `seen` are taken. -/
def placeholderOf (seen : List String) (position : Nat) (name : List Char) :
    Except TemplateError Placeholder :=
  if name = [] then .error (.emptyPlaceholder position)
  else if !isIdentifier name then .error (.invalidPlaceholder (String.ofList name))
  else match Placeholder.ofName (String.ofList name) with
    | .segment segment =>
      if segment ∈ seen then .error (.duplicateSegment segment) else .ok (.segment segment)
    | placeholder => .ok placeholder

/-- Puts a stretch of literal text, given in reverse, in front of parts; no text gives no part. -/
def consLiteral (reversed : List Char) (parts : List Part) : List Part :=
  if reversed = [] then parts else .literal (String.ofList reversed.reverse) :: parts

/-- Where the reader of a template stands: in literal text, or behind a brace that opened at a
byte.  What it has read there is kept in reverse. -/
inductive Reading where
  | literal (read : List Char)
  | name (opened : Nat) (read : List Char)

/-- Reads the rest of a template from byte `position` on. -/
def readParts (seen : List String) (position : Nat) :
    Reading → List Char → Except TemplateError (List Part)
  | .literal read, [] => .ok (consLiteral read [])
  -- The text ends inside of braces.
  | .name opened _, [] => .error (.unclosedPlaceholder opened)
  | .literal read, c :: rest =>
    -- An opening brace ends the literal text, and a closing one was never opened.
    if c = '\x7b' then
      (readParts seen (position + c.utf8Size) (.name position []) rest).map (consLiteral read)
    else if c = '\x7d' then .error (.unexpectedClose position)
    else readParts seen (position + c.utf8Size) (.literal (c :: read)) rest
  | .name opened read, c :: rest =>
    -- Between braces everything up to the closing one is the name, an opening brace included.
    if c = '\x7d' then
      match placeholderOf seen opened read.reverse with
      | .error e => .error e
      | .ok placeholder =>
        let seen := placeholder.segmentName?.toList ++ seen
        (readParts seen (position + c.utf8Size) (.literal []) rest).map (.field placeholder :: ·)
    else readParts seen (position + c.utf8Size) (.name opened (c :: read)) rest

@[simp] theorem segmentNames_consLiteral (reversed : List Char) (parts : List Part) :
    Part.segmentNames (consLiteral reversed parts) = Part.segmentNames parts := by
  unfold consLiteral
  split <;> rfl

theorem exists_of_map_eq_ok {ε α β : Type} {f : α → β} {x : Except ε α} {b : β}
    (h : x.map f = .ok b) : ∃ a, x = .ok a ∧ f a = b := by
  cases x with
  | error e => cases h
  | ok a =>
    cases h
    exact ⟨a, rfl, rfl⟩

/-- A segment is accepted only under a name that is not taken. -/
theorem placeholderOf_fresh {seen : List String} {position : Nat} {name : List Char}
    {placeholder : Placeholder} (h : placeholderOf seen position name = .ok placeholder) :
    ∀ segment ∈ placeholder.segmentName?, segment ∉ seen := by
  unfold placeholderOf at h
  split at h
  · cases h
  · split at h
    · cases h
    · split at h
      · next segment _ =>
        split at h
        · cases h
        · next hfresh =>
          cases h
          intro s hs
          cases hs
          exact hfresh
      · next hname =>
        cases h
        intro s hs
        cases hplaceholder : Placeholder.ofName (String.ofList name) with
        | segment segment => exact absurd hplaceholder (hname segment)
        | company | audience | peer | identityToken =>
          rw [hplaceholder] at hs
          cases hs

/-- The segments of a template that was read have distinct names, and none of them was taken
before. -/
theorem readParts_distinct {seen : List String} {position : Nat} {reading : Reading}
    {text : List Char} {parts : List Part}
    (h : readParts seen position reading text = .ok parts) :
    (Part.segmentNames parts).Nodup ∧ ∀ name ∈ Part.segmentNames parts, name ∉ seen := by
  fun_induction readParts seen position reading text generalizing parts with
  | case1 seen position read =>
    cases h
    rw [segmentNames_consLiteral]
    exact ⟨List.nodup_nil, fun _ hmem => by cases hmem⟩
  | case2 => cases h
  | case3 seen position read rest ih =>
    obtain ⟨others, hothers, rfl⟩ := exists_of_map_eq_ok h
    simpa using ih hothers
  | case4 => cases h
  | case5 seen position read c rest hopen hclose ih => exact ih h
  | case6 => cases h
  | case7 seen position opened read rest placeholder hplaceholder seen' =>
    -- What is read behind a placeholder has been told that its segment is taken.
    rename_i ih
    obtain ⟨others, hothers, rfl⟩ := exists_of_map_eq_ok h
    obtain ⟨hnodup, hfresh⟩ := ih hothers
    have hplaceholder := placeholderOf_fresh hplaceholder
    cases hname : placeholder.segmentName? with
    | none =>
      have hnames : Part.segmentNames (.field placeholder :: others) = Part.segmentNames others := by
        simp [Part.segmentNames, Part.placeholder?, hname]
      rw [hnames]
      exact ⟨hnodup, fun name hmem hseen => hfresh name hmem (List.mem_append_right _ hseen)⟩
    | some segment =>
      have hnames : Part.segmentNames (.field placeholder :: others) =
          segment :: Part.segmentNames others := by
        simp [Part.segmentNames, Part.placeholder?, hname]
      have hseen' : segment ∈ seen' := List.mem_append_left _ (by simp [hname])
      rw [hnames]
      refine ⟨List.nodup_cons.mpr ⟨fun hmem => hfresh segment hmem hseen', hnodup⟩, ?_⟩
      intro name hmem
      rcases List.mem_cons.mp hmem with rfl | hmem
      · exact hplaceholder name hname
      · exact fun hseen => hfresh name hmem (List.mem_append_right _ hseen)
  | case8 seen position opened read c rest hclose ih => exact ih h

def parse (source : String) : Except TemplateError Template :=
  match h : readParts [] 0 (.literal []) source.toList with
  | .ok parts => .ok { parts, distinct := (readParts_distinct h).1 }
  | .error e => .error e

/-! ## §3 Queries -/

def source (template : Template) : String := String.join (template.parts.map Part.source)

def placeholders (template : Template) : List Placeholder :=
  template.parts.filterMap Part.placeholder?

def segmentNames (template : Template) : List String := Part.segmentNames template.parts

/-- Whether a rendered topic depends on who is asking. -/
def isIdentityScoped (template : Template) : Bool :=
  template.placeholders.any Placeholder.isIdentityScoped

/-- Whether the template begins with the tenant's company. -/
def startsWithCompany (template : Template) : Bool :=
  template.parts.head? == some (.field .company)

end Template

/-! ## §4 Fields -/

/-- The values that go into a template. -/
structure TopicFields where
  company : String := ""
  audience : Option Audience := none
  peer : Option Audience := none
  identityToken : Option String := none
  segments : TextMap String := TextMap.empty

namespace TopicFields

/-- Sets an audience together with its peer. -/
def withAudience (fields : TopicFields) (audience : Audience) : TopicFields :=
  { fields with audience := some audience, peer := some audience.peer }

def get? (fields : TopicFields) : Placeholder → Option String
  | .company => some fields.company
  | .audience => fields.audience.map Audience.name
  | .peer => fields.peer.map Audience.name
  | .identityToken => fields.identityToken
  | .segment name => fields.segments.get? name

end TopicFields

/-! ## §5 Rendering -/

def Part.render? (fields : TopicFields) : Part → Option String
  | literal text => some text
  | field placeholder => fields.get? placeholder

/-- The text of consecutive parts; `none` if a value is missing. -/
def Template.renderParts? (fields : TopicFields) : List Part → Option String
  | [] => some ""
  | part :: rest => do
    let text ← part.render? fields
    let texts ← renderParts? fields rest
    return text ++ texts

/-- Fills in the fields.  A missing value leaves nothing at all: the empty text stands for "no
topic", and no caller may take it for one. -/
def Template.render (template : Template) (fields : TopicFields) : String :=
  (renderParts? fields template.parts).getD ""

end TopicGate
