import TopicGate.Claims.Basic
import TopicGate.Json.Tree
import TopicGate.Text.Base64
import TopicGate.Text.Blank

/-!
# Bearer tokens

A token is three parts with dots between them: a header, the claims, and a signature.  Here the
claims are only read; the signature is nobody's concern.  Header and claims are Base64 text of JSON
objects, and both must be well formed.

## Sections
1. Errors
2. Headers
3. Registered claims
4. Reading a token
-/

namespace TopicGate

open Json (Tree RawText)

/-! ## §1 Errors -/

/-- Why the claims of a token could not be read. -/
inductive TokenError where
  /-- There are fewer than three parts. -/
  | parts
  /-- Header or claims are not Base64. -/
  | base64
  /-- Header or claims are not the JSON they must be. -/
  | json
deriving Repr, DecidableEq

def TokenError.message : TokenError → String
  | parts => "token could not be decoded: InvalidToken"
  | base64 => "token could not be decoded: Base64 error"
  | json => "token could not be decoded: JSON error"

namespace Token

/-! ## §2 Headers -/

/-- The signature algorithms a header may name. -/
def algorithms : List String :=
  ["HS256", "HS384", "HS512", "ES256", "ES384", "RS256", "RS384", "RS512", "PS256", "PS384",
    "PS512", "EdDSA"]

/-- A text that denotes one of the given names. -/
def isOneOf (names : List String) (raw : RawText) : Bool :=
  raw.value?.any names.contains

/-- A choice among names: the name itself, or an object with the name as its only key and nothing
under it. -/
def isChoice (names : List String) : Tree → Bool
  | .text raw => isOneOf names raw
  | .object [(key, .null)] => isOneOf names key
  | _ => false

def isText : Tree → Bool
  | .text raw => raw.value?.isSome
  | _ => false

def isTextList : Tree → Bool
  | .array items => items.all isText
  | _ => false

/-- Lets `null` pass for a missing value. -/
def orNull (accepts : Tree → Bool) : Tree → Bool
  | .null => true
  | tree => accepts tree

/-- The members of an object whose keys are among `names`, by key; `none` if one of them occurs
twice or some key is ill formed. -/
def knownMembers? (names : List String) :
    List (RawText × Tree) → Option (List (String × Tree))
  | [] => some []
  | (raw, tree) :: rest => do
    let key ← raw.value?
    let others ← knownMembers? names rest
    -- Any other key may occur as often as it likes.
    if !names.contains key then return others
    if (others.lookup key).isSome then none
    return (key, tree) :: others

def curves : List String := ["P-256", "P-384", "P-521", "Ed25519"]

/-- The parameters of the kinds of keys: each is listed with the test of its value. -/
def keyKinds : List (List (String × (Tree → Bool))) :=
  [ [("kty", isChoice ["EC"]), ("crv", isChoice curves), ("x", isText), ("y", isText)],
    [("kty", isChoice ["RSA"]), ("n", isText), ("e", isText)],
    [("kty", isChoice ["oct"]), ("k", isText)],
    [("kty", isChoice ["OKP"]), ("crv", isChoice curves), ("x", isText)] ]

/-- What a key may say about its use, besides its parameters. -/
def keyRemarks : List (String × (Tree → Bool)) :=
  [ ("use", orNull isText), ("key_ops", orNull isTextList), ("alg", orNull isText),
    ("kid", orNull isText), ("x5u", orNull isText), ("x5c", orNull isTextList),
    ("x5t", orNull isText), ("x5t#S256", orNull isText) ]

/-- A key: it has all parameters of some kind, and its remarks are well formed. -/
def isKey : Tree → Bool
  | .object members =>
    let remarksFit := match knownMembers? (keyRemarks.map Prod.fst) members with
      | none => false
      | some known => keyRemarks.all fun (name, accepts) =>
          match known.lookup name with
          | none => true
          | some tree => accepts tree
    -- A key may fit several kinds; the kind that it names is only one of the parameters.
    let fits (kind : List (String × (Tree → Bool))) : Bool :=
      match knownMembers? (kind.map Prod.fst) members with
      | none => false
      | some known => kind.all fun (name, accepts) => (known.lookup name).any accepts
    remarksFit && keyKinds.any fits
  | _ => false

/-- The fields of a header in their order, each with the test of its value.  Only the algorithm has
to be there. -/
def headerFields : List (String × (Tree → Bool)) :=
  [ ("typ", orNull isText), ("alg", isChoice algorithms), ("cty", orNull isText),
    ("jku", orNull isText), ("jwk", orNull isKey), ("kid", orNull isText),
    ("x5u", orNull isText), ("x5c", orNull isTextList), ("x5t", orNull isText),
    ("x5t#S256", orNull isText) ]

/-- A header: an object whose known fields are well formed and not repeated, or the list of all
fields in order.  Unknown fields are not looked at. -/
def isHeader : Tree → Bool
  | .object members =>
    match knownMembers? (headerFields.map Prod.fst) members with
    | none => false
    | some known => headerFields.all fun (name, accepts) =>
        match known.lookup name with
        -- Only the algorithm has to be there.
        | none => name != "alg"
        | some tree => accepts tree
  | .array items =>
    items.length == headerFields.length &&
      (headerFields.zip items).all fun (field, tree) => field.2 tree
  | _ => false

/-! ## §3 Registered claims -/

/-- The claims that every token may carry only once. -/
def registeredNames : List String := ["exp", "nbf", "sub", "iss", "aud"]

def isNested : Tree → Bool
  | .array _ | .object _ => true
  | _ => false

/-- An array or object with something in it. -/
def isFilled : Tree → Bool
  | .array items => !items.isEmpty
  | .object members => !members.isEmpty
  | _ => false

/-- Whether registered claims are written in an acceptable way: none twice, no array or object as
subject, and none with content as a time. -/
def registeredClaimsFit : Tree → Bool
  | .object members =>
    match knownMembers? registeredNames members with
    | none => false
    | some known =>
      !(known.lookup "sub").any isNested && !(known.lookup "exp").any isFilled &&
        !(known.lookup "nbf").any isFilled
  | _ => false

/-! ## §4 Reading a token -/

/-- What precedes and what follows the last dot of a text; `none` without a dot. -/
def splitLastDot (text : List Char) : Option (List Char × List Char) :=
  -- The signature may hold no dot, so the last one ends the claims.
  let tail := text.reverse.takeWhile (· != '.')
  match text.reverse.dropWhile (· != '.') with
  | [] => none
  | _ :: front => some (front.reverse, tail.reverse)

/-- The text of a token: a leading `Bearer ` or `bearer ` is taken off once, and then the blanks at
both ends. -/
def bare (token : String) : List Char :=
  let text := token.toList
  -- Only one of the two spellings is taken off.
  let rest := match "Bearer ".toList.isPrefixOf? text with
    | some rest => rest
    | none => ("bearer ".toList.isPrefixOf? text).getD text
  Text.trim rest

/-- The tree of a part of a token. -/
def readPart (text : List Char) : Except TokenError Tree :=
  match Text.Base64.decode? Text.Base64.address text with
  | none => .error .base64
  | some bytes => match Json.tree? bytes with
    | none => .error .json
    | some tree => .ok tree

/-- The claims object of a tree. -/
def claimsOf (tree : Tree) : Except TokenError (TextMap Json) :=
  match tree.value? Tree.maxDepth with
  | some (.object members) =>
    if registeredClaimsFit tree then .ok (TextMap.ofList members) else .error .json
  | _ => .error .json

/-- Reads the claims of a token.  The header is examined before the claims. -/
def claims (token : String) (names : ClaimNames) : Except TokenError Claims :=
  match splitLastDot (bare token) with
  | none => .error .parts
  | some (message, _) => match splitLastDot message with
    | none => .error .parts
    | some (header, payload) => do
      let head ← readPart header
      if !isHeader head then throw .json
      let body ← readPart payload
      let claims ← claimsOf body
      return Claims.ofMap claims names

end Token

end TopicGate
