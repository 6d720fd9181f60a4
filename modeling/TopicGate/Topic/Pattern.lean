import TopicGate.Access
import TopicGate.Identity.Codec
import TopicGate.Topic.Template

/-!
# Topic patterns

A definition names a family of topics; compiled, it can recognise the topics of the family and cut
them into the pieces that its template's parts stand for.

The cut of a topic is the one in which earlier pieces are as long as possible.  It is found from
the right: a table holds the best cut of every tail of the topic by the later parts, and each part
extends the table by one step over all tails, so that no tail is ever cut twice.

## Sections
1. Definitions and errors
2. Steps and cuts
3. Compiled patterns
-/

namespace TopicGate

/-! ## §1 Definitions and errors -/

/-- The declaration of a family of topics. -/
structure TopicDefinition where
  /-- The name of the family. -/
  type : String
  template : String
  hashKind : HashKind := .identity
  /-- Declared accesses by audience name. -/
  accesses : TextMap AccessType := TextMap.empty
deriving Repr, DecidableEq

/-- Why a list of definitions makes no registry. -/
inductive TopicError where
  | invalidTemplate (type : String) (source : TemplateError)
  | duplicateType (type : String)
  /-- The access table names an audience that does not exist. -/
  | unknownAudience (type : String) (audience : String)
deriving Repr, DecidableEq

def TopicError.message : TopicError → String
  | invalidTemplate type source =>
    "topic '" ++ type ++ "' has an invalid template: " ++ source.message
  | duplicateType type => "topic type '" ++ type ++ "' is declared more than once"
  | unknownAudience type audience =>
    "topic '" ++ type ++ "' grants access to unknown audience '" ++ audience ++ "'"

/-- Why a definition is not compiled: it is at fault, or no matcher is made of its template. -/
inductive CompileError (ε : Type) where
  | topic (source : TopicError)
  | matcher (type : String) (source : ε)
deriving Repr, DecidableEq

namespace CompileError

/-- The wording of an error, given that of why no matcher is made. -/
def message {ε : Type} (describe : ε → String) : CompileError ε → String
  | topic source => source.message
  | matcher type source => "topic '" ++ type ++ "' produced an invalid matcher: " ++ describe source

/-- Where every matcher is made, it is the definition that is at fault. -/
def topicError : CompileError Empty → TopicError
  | topic source => source

end CompileError

/-! ## §2 Steps and cuts -/

/-- What one part accepts: one of some texts, or a run of one or more characters of a class. -/
inductive Step where
  | choice (texts : List (List Char))
  | run (accepts : Char → Bool)

/-- Characters of an identity token: ASCII letters and digits. -/
def isTokenChar (c : Char) : Bool := c.isAlphanum

/-- Characters of a segment: all but the level separator. -/
def isSegmentChar (c : Char) : Bool := c != '/'

/-- What a part accepts under a tenant. -/
def Part.step (company : String) : Part → Step
  | .literal text => .choice [text.toList]
  | .field .company => .choice [company.toList]
  | .field .audience | .field .peer => .choice (Audience.all.map fun a => a.name.toList)
  | .field .identityToken => .run isTokenChar
  | .field (.segment _) => .run isSegmentChar

/-- What the parts of a template accept once the tenant's company has been taken off the front of a
topic: a company at the very beginning accepts nothing more, and one further on its own text. -/
def Template.steps (company : String) (template : Template) : List Step :=
  match template.parts with
  | .field .company :: rest => .choice [[]] :: rest.map (Part.step company)
  | parts => parts.map (Part.step company)

/-- The pieces of a topic, one for every step. -/
abbrev Cut := List (List Char)

namespace Cut

/-- Puts one more character in front of the first piece. -/
def grow (c : Char) : Cut → Cut
  | [] => []
  | piece :: pieces => (c :: piece) :: pieces

end Cut

/-- The best cut, if any, of every tail of a text, from the whole text down to the empty tail. -/
abbrev CutTable := List (Option Cut)

def CutTable.first (table : CutTable) : Option Cut := table.head?.join

/-- The best cut of a text whose first piece is taken by `step`.  `later` is the table of the
following steps for this text, and `next` the best cut by the same steps of the text less its first
character. -/
def Step.best (step : Step) (text : List Char) (later : CutTable) (next : Option Cut) :
    Option Cut :=
  match step, text with
  -- Behind a choice the later steps go on where it ends.
  | .choice texts, text => texts.findSome? fun choice =>
      if choice.isPrefixOf text then
        (CutTable.first (later.drop choice.length)).map (choice :: ·)
      else none
  | .run _, [] => none
  | .run accepts, c :: _ =>
    if accepts c then
      -- A run goes on for as long as a cut does, and stops here otherwise.
      match next with
      | some cut => some (cut.grow c)
      | none => (CutTable.first (later.drop 1)).map ([c] :: ·)
    else none

/-- The table of the steps that begin with `step`, from the table of those after it. -/
def Step.extend (step : Step) : List Char → CutTable → CutTable
  | [], later => [step.best [] later none]
  | c :: rest, later =>
    let table := step.extend rest (later.drop 1)
    step.best (c :: rest) later table.first :: table

/-- The table of no steps: only the empty tail has a cut. -/
def CutTable.base : List Char → CutTable
  | [] => [some []]
  | _ :: rest => none :: base rest

def cutTable (steps : List Step) (text : List Char) : CutTable :=
  steps.foldr (fun step later => step.extend text later) (CutTable.base text)

/-- The cut of `text` by `steps` in which earlier pieces are as long as possible. -/
def cut? (steps : List Step) (text : List Char) : Option Cut := (cutTable steps text).first

/-! ## §3 Compiled patterns -/

/-- A definition that can render, recognise and judge the topics of its family. -/
structure TopicPattern where
  type : String
  template : Template
  hashKind : HashKind
  accesses : PerAudience AccessType
deriving Repr, DecidableEq

/-- A table by audience from one by name; the first name, in name order, that is no audience is an
error. -/
def accessTable (type : String) :
    List (String × AccessType) → Except TopicError (PerAudience AccessType)
  | [] => .ok {}
  | (name, access) :: rest => do
    -- The names come in order, so the first one that is wrong is the one that is reported.
    let audience ← (Audience.parse name).mapError fun _ => TopicError.unknownAudience type name
    let table ← accessTable type rest
    return table.set audience access

variable {ε μ : Type}

/-- Compiles a definition, together with the matcher that `matcher` makes of its template. -/
def TopicDefinition.compileWith (matcher : Template → Except ε μ) (definition : TopicDefinition) :
    Except (CompileError ε) (TopicPattern × μ) := do
  let template ← (Template.parse definition.template).mapError fun e =>
    CompileError.topic (.invalidTemplate definition.type e)
  -- The matcher is made before the accesses are read.
  let made ← (matcher template).mapError (CompileError.matcher definition.type)
  let accesses ← (accessTable definition.type definition.accesses.entries).mapError
    CompileError.topic
  let pattern : TopicPattern :=
    { type := definition.type, template, hashKind := definition.hashKind, accesses }
  return (pattern, made)

/-- A pattern cuts topics itself, and needs no matcher beside it. -/
def noMatcher (_ : Template) : Except Empty Unit := .ok ()

def TopicDefinition.compile (definition : TopicDefinition) : Except TopicError TopicPattern :=
  ((definition.compileWith noMatcher).mapError CompileError.topicError).map Prod.fst

namespace TopicPattern

def accessFor (pattern : TopicPattern) (audience : Audience) : Option AccessType :=
  pattern.accesses.get? audience

/-- Whether an audience may do what is requested on the topics of the pattern. -/
def hasAccess (pattern : TopicPattern) (audience : Audience) (requested : AccessType) : Bool :=
  grants (pattern.accessFor audience) requested

/-- Whether the caller must own the topic, because it speaks of who is asking. -/
def requiresOwnership (pattern : TopicPattern) : Bool := pattern.template.isIdentityScoped

/-- Whether matching topics must carry the tenant's company in front. -/
def requiresTenantPrefix (pattern : TopicPattern) : Bool := pattern.template.startsWithCompany

def cut? (pattern : TopicPattern) (company stripped : String) : Option Cut :=
  TopicGate.cut? (pattern.template.steps company) stripped.toList

/-- Whether a topic without its company belongs to the family. -/
def accepts (pattern : TopicPattern) (company stripped : String) : Bool :=
  (pattern.cut? company stripped).isSome

/-- The segment that a part names, with the piece that the part takes. -/
def capture? : Part × List Char → Option (String × String)
  | (.field (.segment name), piece) => some (name, String.ofList piece)
  | _ => none

/-- The values of the segments in a topic without its company; `none` if the topic does not belong
to the family. -/
def captures? (pattern : TopicPattern) (company stripped : String) : Option (TextMap String) :=
  (pattern.cut? company stripped).map fun cut =>
    TextMap.ofList ((pattern.template.parts.zip cut).filterMap capture?)

def render (pattern : TopicPattern) (fields : TopicFields) : String :=
  pattern.template.render fields

end TopicPattern

end TopicGate
