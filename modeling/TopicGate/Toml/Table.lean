import TopicGate.Json.Basic
import TopicGate.Toml.Document

/-!
# TOML tables

What the statements of a document denote: nested tables, whose values are JSON values.  A table may
be opened by its header once; a table that dotted keys have made is closed to headers, and one with
a header is closed to dotted keys from outside.

## Sections
1. Growing tables
2. Adding at a place
3. Values
4. Sections
5. Documents
-/

namespace TopicGate.Toml

/-! ## §1 Growing tables -/

/-- How a table came to be. -/
inductive Origin where
  /-- By its own header, or as the whole document. -/
  | header
  /-- On the way of a header to a table inside it. -/
  | passing
  /-- On the way of a dotted key. -/
  | dotted
deriving Repr, DecidableEq

/-- What a document has under a key so far. -/
inductive Node where
  | value (value : Json)
  | table (origin : Origin) (entries : List (String × Node))
  /-- The elements of a list of tables, each with its own header. -/
  | tables (elements : List (List (String × Node)))

/-- The entries of a table. -/
abbrev Entries := List (String × Node)

/-- Puts a node under a key. -/
def Entries.put (entries : Entries) (key : String) (node : Node) : Entries :=
  if (entries.lookup key).isSome then
    entries.map fun entry => if entry.1 = key then (key, node) else entry
  else entries ++ [(key, node)]

/-! ## §2 Adding at a place -/

/-- Changes the table at the end of a path.  Tables that are missing on the way are made with the
given origin, and of a list of tables the last one is taken.  A dotted way does not lead through a
table with a header of its own. -/
def alter (way : Origin) (change : Origin → Entries → Option Entries) :
    List String → Origin → Entries → Option Entries
  | [], origin, entries => change origin entries
  | key :: path, _, entries => match entries.lookup key with
    | none => do
      let inner ← alter way change path way []
      return entries.put key (.table way inner)
    | some (.table origin inner) =>
      -- A table with a header of its own is complete below that header.
      if way = .dotted ∧ origin = .header then none
      else do
        let inner ← alter way change path origin inner
        return entries.put key (.table origin inner)
    | some (.tables elements) => do
      -- Headers below a list of tables speak of its last element.
      let last ← elements.getLast?
      let last ← alter way change path .header last
      return entries.put key (.tables (elements.dropLast ++ [last]))
    | some (.value _) => none

/-- Adds a pair to a table.  Behind a dotted path there must be a table of dotted keys, and the name
must be new. -/
def addPair (entries : Entries) (pair : Key × Json) : Option Entries :=
  let (key, value) := pair
  alter .dotted (fun origin inner =>
    -- A dotted path ends in a table that such paths made, and a plain name in any other.
    if (origin == .dotted) == key.path.isEmpty || (inner.lookup key.name).isSome then none
    else some (inner ++ [(key.name, .value value)])) key.path .header entries

/-! ## §3 Values -/

mutual

def Node.json : Node → Json
  | .value v => v
  | .table _ entries => .ofMembers (members entries)
  | .tables elements => .array (objects elements)

/-- The members of the object that entries denote. -/
def members : List (String × Node) → List (String × Json)
  | [] => []
  | (key, node) :: rest => (key, node.json) :: members rest

/-- The objects of a list of tables. -/
def objects : List (List (String × Node)) → List Json
  | [] => []
  | entries :: rest => .ofMembers (members entries) :: objects rest

end

/-- The value of a scalar.  A date is a table with its text as only entry, so that no field takes it
for a text. -/
def Scalar.json : Scalar → Json
  | .bool b => .bool b
  | .int n => .int n
  | .real x => .real x
  | .dateTime text => .object [("date-time", .text text)]

mutual

def Value.json? : Value → Option Json
  | .scalar scalar => some scalar.json
  | .text s => some (.text s)
  | .array items => (itemsJson? items).map .array
  | .table pairs => do
    let pairs ← pairsJson? pairs
    let entries ← pairs.foldlM addPair []
    return .ofMembers (members entries)

def itemsJson? : List Value → Option (List Json)
  | [] => some []
  | item :: rest => do
    let value ← item.json?
    let values ← itemsJson? rest
    return value :: values

def pairsJson? : List (Key × Value) → Option (List (Key × Json))
  | [] => some []
  | (key, value) :: rest => do
    let value ← value.json?
    let pairs ← pairsJson? rest
    return (key, value) :: pairs

end

/-! ## §4 Sections -/

/-- What opens the table that pairs belong to. -/
inductive Opening where
  | document
  | table (key : Key)
  | element (key : Key)

/-- A table with the pairs below its header. -/
structure Section where
  opening : Opening
  pairs : List (Key × Json)

/-- Adds the entries of a section to those of the document. -/
def Section.addTo? (s : Section) (root : Entries) : Option Entries :=
  match s.opening with
  | .document => s.pairs.foldlM addPair root
  | .table key =>
    alter .passing (fun _ parent => do
      let earlier ← match parent.lookup key.name with
        | none => some []
        -- A table may get its header after those of the tables inside it, but only once.
        | some (.table .passing entries) => some entries
        | some _ => none
      let entries ← s.pairs.foldlM addPair earlier
      return parent.put key.name (.table .header entries)) key.path .header root
  | .element key =>
    alter .passing (fun _ parent => do
      let earlier ← match parent.lookup key.name with
        | none => some []
        | some (.tables elements) => some elements
        | some _ => none
      let entries ← s.pairs.foldlM addPair []
      return parent.put key.name (.tables (earlier ++ [entries]))) key.path .header root

/-! ## §5 Documents -/

/-- Groups statements into sections; `opening` is the table that the first pairs belong to, and
`pairs` those read so far, in reverse. -/
def sections? (opening : Opening) (pairs : List (Key × Json)) :
    List Statement → Option (List Section)
  | [] => some [⟨opening, pairs.reverse⟩]
  | .pair key value :: rest => do
    let value ← value.json?
    sections? opening ((key, value) :: pairs) rest
  | .tableHeader key :: rest =>
    (sections? (.table key) [] rest).map (⟨opening, pairs.reverse⟩ :: ·)
  | .elementHeader key :: rest =>
    (sections? (.element key) [] rest).map (⟨opening, pairs.reverse⟩ :: ·)

/-- The value of a document. -/
def parse? (document : String) : Option Json := do
  let statements ← Statement.readAll? document
  let sections ← sections? .document [] statements
  let entries ← sections.foldlM (fun root s => s.addTo? root) []
  return .ofMembers (members entries)

end TopicGate.Toml
