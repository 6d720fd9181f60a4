import TopicGate.Json.Token

/-!
# Document trees

The nesting of a JSON document before its numbers and texts are read as values.  A tree keeps every
member of an object, repeated ones included, so that a reader may ignore a part of the document
without asking whether its texts and numbers denote anything.

## Sections
1. Trees
2. Building a tree from tokens
3. The value of a tree
-/

namespace TopicGate.Json

/-! ## §1 Trees -/

/-- A document as nested tokens. -/
inductive Tree where
  | null
  | bool (value : Bool)
  | number (literal : NumberLiteral)
  | text (raw : RawText)
  | array (items : List Tree)
  | object (members : List (RawText × Tree))
deriving Repr

/-! ## §2 Building a tree from tokens -/

/-- An array or object that is still open, with its finished parts in reverse. -/
inductive Frame where
  | array (items : List Tree)
  | object (members : List (RawText × Tree))
  /-- An object whose next member has its key but not yet its value. -/
  | member (members : List (RawText × Tree)) (key : RawText)

/-- What may come next. -/
inductive Expected where
  | value
  | valueOrClose
  | key
  | keyOrClose
  | colon
  | commaOrClose
  | nothing (tree : Tree)

/-- A partly read document: the open frames, innermost first, and what may come next. -/
structure Builder where
  frames : List Frame
  expected : Expected

namespace Builder

def initial : Builder := ⟨[], .value⟩

/-- Adds a finished value to the innermost frame. -/
def add (frames : List Frame) (tree : Tree) : Option Builder :=
  match frames with
  -- Outside of all frames the document is complete.
  | [] => some ⟨[], .nothing tree⟩
  | .array items :: outer => some ⟨.array (tree :: items) :: outer, .commaOrClose⟩
  | .member members key :: outer => some ⟨.object ((key, tree) :: members) :: outer, .commaOrClose⟩
  | .object _ :: _ => none

/-- Closes the innermost array. -/
def closeArray (frames : List Frame) : Option Builder :=
  match frames with
  | .array items :: outer => add outer (.array items.reverse)
  | _ => none

/-- Closes the innermost object. -/
def closeObject (frames : List Frame) : Option Builder :=
  match frames with
  | .object members :: outer => add outer (.object members.reverse)
  | _ => none

/-- Reads a token where a value may start. -/
def startValue (frames : List Frame) : Token → Option Builder
  | .null => add frames .null
  | .bool b => add frames (.bool b)
  | .number literal => add frames (.number literal)
  | .text raw => add frames (.text raw)
  | .openArray => some ⟨.array [] :: frames, .valueOrClose⟩
  | .openObject => some ⟨.object [] :: frames, .keyOrClose⟩
  | _ => none

/-- Reads a token where a key must stand. -/
def startMember (frames : List Frame) : Token → Option Builder
  | .text key => match frames with
    | .object members :: outer => some ⟨.member members key :: outer, .colon⟩
    | _ => none
  | _ => none

def step (builder : Builder) (token : Token) : Option Builder :=
  match builder.expected, token with
  | .value, token => startValue builder.frames token
  | .valueOrClose, .closeArray => closeArray builder.frames
  | .valueOrClose, token => startValue builder.frames token
  | .key, token => startMember builder.frames token
  | .keyOrClose, .closeObject => closeObject builder.frames
  | .keyOrClose, token => startMember builder.frames token
  | .colon, .colon => some { builder with expected := .value }
  | .commaOrClose, .closeArray => closeArray builder.frames
  | .commaOrClose, .closeObject => closeObject builder.frames
  -- Behind a comma nothing may be closed.
  | .commaOrClose, .comma => match builder.frames with
    | .array _ :: _ => some { builder with expected := .value }
    | .object _ :: _ => some { builder with expected := .key }
    | _ => none
  | _, _ => none

def finish (builder : Builder) : Option Tree :=
  match builder.expected with
  | .nothing tree => some tree
  | _ => none

end Builder

/-- The tree of a document. -/
def tree? (bytes : List UInt8) : Option Tree := do
  let tokens ← tokens? bytes
  let builder ← tokens.foldlM Builder.step Builder.initial
  builder.finish

/-! ## §3 The value of a tree -/

namespace Tree

mutual

/-- The value of a tree, nested at most `room` deep; `none` when a text or a number in it denotes
nothing or the nesting is deeper.  Of two members with one key the later stays. -/
def value? (room : Nat) : Tree → Option Json
  | .null => some .null
  | .bool b => some (.bool b)
  | .number literal => literal.value?
  | .text raw => raw.value?.map .text
  | .array items => if room = 0 then none else (itemValues? (room - 1) items).map .array
  | .object members =>
    if room = 0 then none else (memberValues? (room - 1) members).map ofMembers

def itemValues? (room : Nat) : List Tree → Option (List Json)
  | [] => some []
  | tree :: rest => do
    let value ← value? room tree
    let values ← itemValues? room rest
    return value :: values

def memberValues? (room : Nat) : List (RawText × Tree) → Option (List (String × Json))
  | [] => some []
  | (raw, tree) :: rest => do
    let key ← raw.value?
    let value ← value? room tree
    let values ← memberValues? room rest
    return (key, value) :: values

end

/-- How deep arrays and objects may be nested. -/
def maxDepth : Nat := 127

end Tree

def parse? (bytes : List UInt8) : Option Json := do
  let tree ← tree? bytes
  tree.value? Tree.maxDepth

end TopicGate.Json
