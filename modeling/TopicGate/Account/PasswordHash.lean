import TopicGate.Digest.Argon2
import TopicGate.Text.Base64
import TopicGate.Text.Digits

/-!
# Password hashes

A password is kept as a text that names the algorithm, its version and costs, the salt, and the tag
of the password: `$algorithm$v=version$costs$salt$tag`.  Checking a password computes its tag with
everything the text names, so that texts with other costs than those of new ones still count.

## Sections
1. The text
2. Reading its parts
3. Reading the text
4. Checking a password
5. New hashes
6. Password schemes
-/

namespace TopicGate

open Digest (Argon2.Params Argon2.Variant)

/-! ## §1 The text -/

/-- A password hash as it is written. -/
structure PasswordHash where
  algorithm : String
  version : Option Nat
  params : List (String × String)
  salt : Option String
  tag : Option (List UInt8)
deriving Repr, DecidableEq

namespace PasswordHash

def pieces (separator : Char) (text : String) : List (List Char) :=
  text.toList.splitOn separator

/-! ## §2 Reading its parts -/

/-- A name: up to 32 lower-case letters, digits and hyphens. -/
def isName (cs : List Char) : Bool :=
  !cs.isEmpty && cs.length ≤ 32 && cs.all fun c => c.isLower || c.isDigit || c == '-'

/-- A value: up to 64 letters, digits and the marks of Base64 texts. -/
def isValue (cs : List Char) : Bool :=
  cs.length ≤ 64 && cs.all fun c => c.isAlphanum || c == '/' || c == '+' || c == '.' || c == '-'

/-- A number of 32 bits without leading zeros. -/
def decimal? (cs : List Char) : Option Nat :=
  if cs.isEmpty || !cs.all Char.isDigit || (cs.head? == some '0' && cs.length != 1) then none
  else
    let n := Text.natOfDigits 10 cs
    if n < UInt32.size then some n else none

/-- A version: the field `v=` and a number, and no more. -/
def version? : List Char → Option (Option Nat)
  | 'v' :: '=' :: value =>
    if value.contains ',' then none
    else some (if isValue value then decimal? value else none)
  | _ => none

/-- The costs: names and values in pairs. -/
def params? (field : List Char) : Option (List (String × String)) :=
  if field.length ≤ 127 then
    (field.splitOn ',').mapM fun pair =>
      match pair.splitOn '=' with
      | [name, value] =>
        if isName name && isValue value then some (String.ofList name, String.ofList value)
        else none
      | _ => none
  else none

/-- The salt: a value of at least four characters. -/
def salt? (field : List Char) : Option String :=
  if 4 ≤ field.length ∧ isValue field then some (String.ofList field) else none

/-- The tag: ten to 64 bytes. -/
def tag? (field : List Char) : Option (List UInt8) := do
  let bytes ← Text.Base64.decode? Text.Base64.standard field
  if 10 ≤ bytes.length ∧ bytes.length ≤ 64 then some bytes else none

/-! ## §3 Reading the text -/

def takeVersion? : List (List Char) → Option (Option Nat × List (List Char))
  | [] => some (none, [])
  | field :: rest => match version? field with
    | none => some (none, field :: rest)
    | some none => none
    | some (some version) => some (some version, rest)

def takeParams? : List (List Char) → Option (List (String × String) × List (List Char))
  | [] => some ([], [])
  | field :: rest =>
    if field.contains '=' then (params? field).map (·, rest) else some ([], field :: rest)

/-- Reads a password hash: a leading separator, the algorithm, and the other fields, each of which
may be missing. -/
def read? (text : String) : Option PasswordHash := do
  let (algorithm, fields) ← match pieces '$' text with
    | [] :: algorithm :: fields => if isName algorithm then some (algorithm, fields) else none
    | _ => none
  let (version, fields) ← takeVersion? fields
  let (params, fields) ← takeParams? fields
  let (salt, tag) ← match fields with
    | [] => some (none, none)
    | [salt] => (salt? salt).map fun salt => (some salt, none)
    | [salt, tag] => do
      let salt ← salt? salt
      let tag ← tag? tag
      some (some salt, some tag)
    | _ => none
  return { algorithm := String.ofList algorithm, version, params, salt, tag }

/-- The first four pieces of a text: all that is not particular to one password. -/
def leading (text : String) : String :=
  String.ofList (List.intercalate ['$'] ((pieces '$' text).take 4))

/-! ## §4 Checking a password -/

def variant? (algorithm : String) : Option Argon2.Variant :=
  if algorithm = "argon2d" then some .d
  else if algorithm = "argon2i" then some .i
  else if algorithm = "argon2id" then some .id
  else none

/-- The costs of new hashes, which also stand in for those that a hash does not name. -/
def usualParams (variant : Argon2.Variant) (version size : Nat) : Argon2.Params :=
  { variant, version, memory := 19456, passes := 2, lanes := 1, size }

/-- Sets a cost by name.  A key name counts for nothing but must be well-formed. -/
def setParam? (p : Argon2.Params) (name value : String) : Option Argon2.Params :=
  let bytesUpTo (most : Nat) : Option (List UInt8) :=
    (Text.Base64.decode? Text.Base64.standard value.toList).filter (·.length ≤ most)
  if name = "m" then (decimal? value.toList).map fun n => { p with memory := n }
  else if name = "t" then (decimal? value.toList).map fun n => { p with passes := n }
  else if name = "p" then (decimal? value.toList).map fun n => { p with lanes := n }
  else if name = "keyid" then (bytesUpTo 8).map fun _ => p
  else if name = "data" then (bytesUpTo 32).map fun bytes => { p with extra := bytes }
  else none

/-- Whether costs lie within the limits of the algorithm. -/
def isFeasible (p : Argon2.Params) : Bool :=
  8 ≤ p.memory && 8 * p.lanes ≤ p.memory && 1 ≤ p.passes && 1 ≤ p.lanes && p.lanes < Nat.pow 2 24

/-- The costs that a hash with a tag of `size` bytes names. -/
def argon2Params? (hash : PasswordHash) (size : Nat) : Option Argon2.Params := do
  let variant ← variant? hash.algorithm
  let version := hash.version.getD 19
  if version ≠ 16 ∧ version ≠ 19 then none
  let p ← hash.params.foldlM (fun p (name, value) => setParam? p name value)
    (usualParams variant version size)
  if isFeasible p then some p else none

def minSaltSize : Nat := 8

/-- The tag of a password under everything that a hash names. -/
def tagOf? (hash : PasswordHash) (password : String) : Option (List UInt8) := do
  let expected ← hash.tag
  let salt ← hash.salt
  let p ← hash.argon2Params? expected.length
  let salt ← Text.Base64.decode? Text.Base64.standard salt.toList
  if salt.length < minSaltSize then none
  return Digest.Argon2.tag p password.toUTF8.toList salt

/-- Whether a password is the one of a hash.  No password is that of a text which is not one. -/
def verify (password text : String) : Bool :=
  match read? text with
  | none => false
  | some hash => hash.tag.isSome && hash.tagOf? password == hash.tag

/-! ## §5 New hashes -/

def usualSize : Nat := 32

/-- A new hash of a password with a salt. -/
def make (salt : List UInt8) (password : String) : String :=
  let p := usualParams .id 19 usualSize
  let tag := Digest.Argon2.tag p password.toUTF8.toList salt
  let encode (bytes : List UInt8) : String :=
    String.ofList (Text.Base64.encode Text.Base64.standard bytes)
  "$argon2id$v=" ++ toString p.version ++ "$m=" ++ toString p.memory ++ ",t=" ++
    toString p.passes ++ ",p=" ++ toString p.lanes ++ "$" ++ encode salt ++ "$" ++ encode tag

end PasswordHash

/-! ## §6 Password schemes -/

/-- How passwords are kept: a text made for a password, which may not be possible, and a check of a
password against such a text. -/
structure PasswordScheme where
  hash : String → Except String String
  verify : String → String → Bool

/-- The greatest size of a password in bytes. -/
def PasswordHash.maxPasswordSize : Nat := UInt32.size - 1

def PasswordScheme.salted (salt : List UInt8) : PasswordScheme where
  hash password :=
    if PasswordHash.maxPasswordSize < password.utf8ByteSize then .error "invalid password"
    else .ok (PasswordHash.make salt password)
  verify := PasswordHash.verify

end TopicGate
