import TopicGate.Config.Environment
import TopicGate.Config.File
import TopicGate.EnvFile.Line
import TopicGate.Text.Alphanumeric

/-!
# Bindings of an environment file

A line binds a variable to a value, which may be quoted, escaped, and refer to other variables.
Loading a file adds its bindings to an environment without changing any variable that is set.

## Sections
1. Values
2. Lines
3. Loading
-/

namespace TopicGate.EnvFile

/-! ## §1 Values -/

/-- The quotes that are open. -/
inductive Quotes where
  | none
  | strong
  | weak
deriving Repr, DecidableEq

/-- What the next character belongs to. -/
inductive Reading where
  | plain
  | escape
  /-- The value is complete; blanks and a comment may follow. -/
  | ended
  /-- The comment behind the value. -/
  | comment
  /-- The name of a variable, in reverse. -/
  | variable (name : List Char)
  /-- The name of a variable in braces, in reverse. -/
  | braced (name : List Char)
deriving Repr, DecidableEq

/-- A partly read value, in reverse. -/
structure PartialValue where
  written : List Char := []
  quotes : Quotes := .none
  reading : Reading := .plain
deriving Repr, DecidableEq

namespace PartialValue

def push (v : PartialValue) (c : Char) : PartialValue :=
  { v with written := c :: v.written, reading := .plain }

/-- Adds the value of the variable with a name in reverse; an unset variable is empty. -/
def expand (environment : Environment) (v : PartialValue) (name : List Char) : PartialValue :=
  let value := (environment.get? (String.ofList name.reverse)).getD ""
  { v with written := value.toList.reverse ++ v.written, reading := .plain }

/-- The character an escape stands for. -/
def escaped? (c : Char) : Option Char :=
  if c = 'n' then some '\n'
  else if c ∈ ['\\', '\'', '"', '$', ' '] then some c
  else none

/-- Reads a character outside names, escapes and comments. -/
def stepPlain (v : PartialValue) (c : Char) : PartialValue :=
  match v.quotes with
  | .strong => if c = '\'' then { v with quotes := .none } else v.push c
  | .weak =>
    if c = '$' then { v with reading := .variable [] }
    else if c = '"' then { v with quotes := .none }
    else if c = '\\' then { v with reading := .escape }
    else v.push c
  | .none =>
    if c = '$' then { v with reading := .variable [] }
    else if c = '\'' then { v with quotes := .strong }
    else if c = '"' then { v with quotes := .weak }
    else if c = '\\' then { v with reading := .escape }
    else if c = ' ' ∨ c = '\t' then { v with reading := .ended }
    else v.push c

/-- Reads a character.  The one that ends the name of a variable stands for itself, unless it starts
another name. -/
def step (environment : Environment) (v : PartialValue) (c : Char) : Option PartialValue :=
  match v.reading with
  | .comment => some v
  | .ended =>
    if c = ' ' ∨ c = '\t' then some v
    else if c = '#' then some { v with reading := .comment }
    else none
  | .escape => (escaped? c).map v.push
  | .variable name =>
    if Text.isAlphanumeric c then some { v with reading := .variable (c :: name) }
    else if c = '\x7b' ∧ name = [] then some { v with reading := .braced [] }
    else
      -- The name ends before this character, which belongs to the value again.
      let v := v.expand environment name
      if c = '$' then some { v with reading := .variable [] } else some (v.push c)
  | .braced name =>
    if c = '\x7d' then some (v.expand environment name)
    else some { v with reading := .braced (c :: name) }
  | .plain => some (v.stepPlain c)

/-- The value at the end of the line; quotes and braces must be closed. -/
def finish (environment : Environment) (v : PartialValue) : Option String :=
  if v.quotes = .none then
    match v.reading with
    | .braced _ => none
    | .variable name => some (String.ofList (v.expand environment name).written.reverse)
    | _ => some (String.ofList v.written.reverse)
  else none

end PartialValue

def value? (environment : Environment) (text : List Char) : Option String :=
  (text.foldlM (PartialValue.step environment) {}).bind (PartialValue.finish environment)

/-! ## §2 Lines -/

def skipBlanks (cs : List Char) : List Char := cs.dropWhile Text.isBlank

/-- The name of a variable, and what follows it. -/
def name? (cs : List Char) : Option (String × List Char) :=
  let isName (c : Char) : Bool := c.isAlphanum || c == '_' || c == '.'
  if cs.head?.any fun c => c.isAlpha || c == '_' then
    some (String.ofList (cs.takeWhile isName), cs.dropWhile isName)
  else none

/-- What follows the mark between a name and its value. -/
def afterEqual? (cs : List Char) : Option (List Char) :=
  match skipBlanks cs with
  | '=' :: rest => some rest
  | _ => none

/-- The name that a line binds, and what is written for its value.  The word `export` may stand
before the name, and may be a name itself. -/
def nameAndValue? (line : List Char) : Option (String × List Char) := do
  let (name, rest) ← name? line
  match afterEqual? rest with
  | some value => return (name, value)
  | none =>
    -- Not followed by a value, the word stands before the name.
    if name = "export" then
      let (name, rest) ← name? (skipBlanks rest)
      let value ← afterEqual? rest
      return (name, value)
    else none

/-- What a line does. -/
inductive LineMeaning where
  | nothing
  | binding (name value : String)
  | malformed
deriving Repr, DecidableEq

def lineMeaning (environment : Environment) (line : List Char) : LineMeaning :=
  let line := Text.trim line
  if line.isEmpty || line.head? == some '#' then .nothing
  else match nameAndValue? line with
    | none => .malformed
    | some (name, value) =>
      let value := skipBlanks value
      if value.isEmpty || value.head? == some '#' then .binding name ""
      else match value? environment value with
        | some value => .binding name value
        | none => .malformed

/-! ## §3 Loading -/

/-- Loads lines in order.  The first malformed one ends the loading and what was loaded stays. -/
def loadLines (environment : Environment) : List (Option (List Char)) → Environment
  | [] => environment
  | none :: _ => environment
  | some line :: rest =>
    match lineMeaning environment line with
    | .nothing => loadLines environment rest
    | .malformed => environment
    | .binding name value =>
      -- A variable that is set already keeps its value.
      let environment :=
        if (environment.get? name).isSome then environment else environment.insert name value
      loadLines environment rest

/-- Adds the bindings of a file, if it is there, to an environment. -/
def load (file : FileState) (environment : Environment) : Environment :=
  match file with
  | .text content =>
    let content := match content.toList with
      | '\ufeff' :: rest => String.ofList rest
      | _ => content
    loadLines environment (logicalLines content)
  | _ => environment

end TopicGate.EnvFile
