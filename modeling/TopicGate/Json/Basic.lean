import TopicGate.Number.Double
import TopicGate.TextMap

/-!
# JSON values

The values a JSON document denotes: integers stay apart from other numbers, and an object is the
list of its members.

## Sections
1. Values
2. Members
3. The written form
-/

namespace TopicGate

/-! ## §1 Values -/

/-- A JSON value. -/
inductive Json where
  | null
  | bool (value : Bool)
  /-- A number written as an integer of at most 64 bits. -/
  | int (value : Int)
  /-- Any other number. -/
  | real (value : Double)
  | text (value : String)
  | array (items : List Json)
  | object (members : List (String × Json))
deriving Repr, Inhabited

namespace Json

/-! ## §2 Members -/

/-- The object with given members; of two with one key the later stays. -/
def ofMembers (members : List (String × Json)) : Json := object (TextMap.ofList members).entries

def member? (key : String) : Json → Option Json
  | object members => members.lookup key
  | _ => none

/-- The list of texts as a JSON array. -/
def texts (items : List String) : Json := array (items.map text)

def nat (n : Nat) : Json := int n

/-- A value that may be absent, with `null` for absence. -/
def ofOption {α : Type} (f : α → Json) : Option α → Json
  | none => null
  | some a => f a

/-! ## §3 The written form -/

/-- The lower-case hexadecimal digit of a number below sixteen. -/
def hexDigit (n : Nat) : Char := Nat.digitChar n

/-- A character inside a quoted text: quotes, backslashes and control characters are escaped. -/
def escapeChar (c : Char) : List Char :=
  if c = '"' then ['\\', '"']
  else if c = '\\' then ['\\', '\\']
  else if c = '\n' then ['\\', 'n']
  else if c = '\r' then ['\\', 'r']
  else if c = '\t' then ['\\', 't']
  else if c.toNat < 0x20 then
    ['\\', 'u', '0', '0', hexDigit (c.toNat / 16), hexDigit (c.toNat % 16)]
  else [c]

/-- A text in quotes. -/
def quote (s : String) : String :=
  String.ofList ('"' :: (s.toList.flatMap escapeChar ++ ['"']))

mutual

/-- The compact written form of a value. -/
def render : Json → String
  | null => "null"
  | bool true => "true"
  | bool false => "false"
  | int n => toString n
  | real x => x.text
  | text s => quote s
  | array items => "[" ++ renderItems items ++ "]"
  | object members => "\x7b" ++ renderMembers members ++ "\x7d"

def renderItems : List Json → String
  | [] => ""
  | [item] => item.render
  | item :: rest => item.render ++ "," ++ renderItems rest

def renderMembers : List (String × Json) → String
  | [] => ""
  | [(key, value)] => quote key ++ ":" ++ value.render
  | (key, value) :: rest => quote key ++ ":" ++ value.render ++ "," ++ renderMembers rest

end

end Json

end TopicGate
