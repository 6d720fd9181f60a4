import TopicGate.Toml.Scalar

/-!
# TOML documents

The statements of a document, line by line: pairs of a key and a value, and headers that open a
table or the next element of a list of tables.  What the statements together denote is decided in
`TopicGate.Toml.Table`.

## Sections
1. Statements
2. Between statements
3. Keys
4. Values
5. Documents
-/

namespace TopicGate.Toml

/-! ## §1 Statements -/

/-- A dotted key: the tables it goes through, and a name in the last of them. -/
structure Key where
  path : List String
  name : String
deriving Repr, DecidableEq

/-- A value as it is written. -/
inductive Value where
  | scalar (value : Scalar)
  | text (value : String)
  | array (items : List Value)
  /-- A table within a line. -/
  | table (pairs : List (Key × Value))
deriving Repr

inductive Statement where
  | pair (key : Key) (value : Value)
  | tableHeader (key : Key)
  | elementHeader (key : Key)
deriving Repr

/-! ## §2 Between statements -/

def skipBlanks (cs : List Char) : List Char := cs.dropWhile isBlank

/-- Drops blanks, line breaks and comments. -/
def skipLines (inComment : Bool) : List Char → List Char
  -- A carriage return counts only in front of a line feed.
  | '\r' :: '\n' :: rest => skipLines false rest
  | c :: rest =>
    if c = '\n' then skipLines false rest
    else if inComment && isTextChar c then skipLines true rest
    -- A control character ends the comment, and nothing can be read from it on.
    else if inComment then c :: rest
    else if isBlank c then skipLines false rest
    else if c = '#' then skipLines true rest
    else c :: rest
  | [] => []

/-- What follows the end of a line on which there is nothing more to read. -/
def afterLine? (cs : List Char) : Option (List Char) :=
  let rest := match skipBlanks cs with
    | '#' :: comment => comment.dropWhile isTextChar
    | rest => rest
  match rest with
  | [] => some []
  | '\n' :: rest => some rest
  | '\r' :: '\n' :: rest => some rest
  | _ => none

/-! ## §3 Keys -/

/-- A character of keys without quotes. -/
def isKeyChar (c : Char) : Bool := c.isAlphanum || c == '_' || c == '-'

/-- One name of a key. -/
def name? : List Char → Option (String × List Char)
  | '"' :: rest => basicText? [] .plain rest
  | '\'' :: rest => literalText? [] rest
  | cs =>
    let name := cs.takeWhile isKeyChar
    if name.isEmpty then none else some (String.ofList name, cs.dropWhile isKeyChar)

/-- How many names a key may have, and how deep values may be nested. -/
def maxDepth : Nat := 79

/-- A key of at most `room` names, with blanks around each. -/
def key? : (room : Nat) → List Char → Option (Key × List Char)
  | 0, _ => none
  | room + 1, cs => do
    let (name, rest) ← name? (skipBlanks cs)
    match skipBlanks rest with
    | '.' :: rest => do
      -- What has been read is a table on the way to the rest of the key.
      let (key, rest) ← key? room rest
      return (⟨name :: key.path, key.name⟩, rest)
    | rest => return (⟨[], name⟩, rest)

/-! ## §4 Values -/

mutual

/-- The value at the beginning, nested at most `room` deep.  The fuel bounds the steps. -/
def value? (room : Nat) : (fuel : Nat) → List Char → Option (Value × List Char)
  | 0, _ => none
  | fuel + 1, cs => match cs with
    -- Three quotes are tried before one, which would be an empty text.
    | '"' :: '"' :: '"' :: rest =>
      (longBasicText? [] .plain (dropNewline rest)).map fun (s, rest) => (.text s, rest)
    | '"' :: rest => (basicText? [] .plain rest).map fun (s, rest) => (.text s, rest)
    | '\'' :: '\'' :: '\'' :: rest =>
      (longLiteralText? [] (dropNewline rest)).map fun (s, rest) => (.text s, rest)
    | '\'' :: rest => (literalText? [] rest).map fun (s, rest) => (.text s, rest)
    | '[' :: rest =>
      if room = 0 then none
      else (items? (room - 1) fuel (skipLines false rest)).map fun (items, rest) =>
        (.array items, rest)
    | '\x7b' :: rest =>
      if room = 0 then none
      else match skipBlanks rest with
        | '\x7d' :: rest => some (.table [], rest)
        -- A table that is not empty holds no comma behind its last pair, and no line break.
        | rest => (pairs? (room - 1) fuel rest).map fun (pairs, rest) => (.table pairs, rest)
    | _ => (Scalar.read? cs).map fun (scalar, rest) => (.scalar scalar, rest)

/-- The items of an array up to its end.  A comma may stand behind the last. -/
def items? (room : Nat) : (fuel : Nat) → List Char → Option (List Value × List Char)
  | 0, _ => none
  | fuel + 1, cs => match cs with
    | ']' :: rest => some ([], rest)
    | _ => do
      let (item, rest) ← value? room fuel cs
      match skipLines false rest with
      | ']' :: rest => return ([item], rest)
      | ',' :: rest => do
        let (items, rest) ← items? room fuel (skipLines false rest)
        return (item :: items, rest)
      | _ => none

/-- The pairs of a table within a line up to its end. -/
def pairs? (room : Nat) : (fuel : Nat) → List Char → Option (List (Key × Value) × List Char)
  | 0, _ => none
  | fuel + 1, cs => do
    let (key, rest) ← key? maxDepth cs
    match rest with
    | '=' :: rest => do
      let (value, rest) ← value? room fuel (skipBlanks rest)
      match skipBlanks rest with
      | '\x7d' :: rest => return ([(key, value)], rest)
      | ',' :: rest => do
        let (pairs, rest) ← pairs? room fuel rest
        return ((key, value) :: pairs, rest)
      | _ => none
    | _ => none

end

/-! ## §5 Documents -/

/-- The statement at the beginning, without the end of its line. -/
def Statement.read? (cs : List Char) : Option (Statement × List Char) :=
  match cs with
  | '[' :: '[' :: rest => do
    let (key, rest) ← key? maxDepth rest
    match rest with
    | ']' :: ']' :: rest => some (.elementHeader key, rest)
    | _ => none
  | '[' :: rest => do
    let (key, rest) ← key? maxDepth rest
    match rest with
    | ']' :: rest => some (.tableHeader key, rest)
    | _ => none
  | _ => do
    let (key, rest) ← key? maxDepth cs
    match rest with
    | '=' :: rest => do
      let rest := skipBlanks rest
      -- An item needs two steps, one for the list and one for itself.
      let (value, rest) ← value? maxDepth (2 * rest.length + 2) rest
      return (.pair key value, rest)
    | _ => none

/-- The statements of a document.  The fuel bounds their number. -/
def statements? : (fuel : Nat) → List Char → Option (List Statement)
  | 0, _ => none
  | fuel + 1, cs => match skipLines false cs with
    | [] => some []
    | rest => do
      let (statement, rest) ← Statement.read? rest
      let rest ← afterLine? rest
      let others ← statements? fuel rest
      return statement :: others

/-- The statements of a document, which may start with a byte order mark. -/
def Statement.readAll? (document : String) : Option (List Statement) :=
  let cs := match document.toList with
    | '\ufeff' :: rest => rest
    | cs => cs
  statements? (cs.length + 1) cs

end TopicGate.Toml
