import TopicGate.Audience
import TopicGate.Identity.Scheme
import TopicGate.Digest.Md5

/-!
# Identity tokens

Every audience has its own salt and least length, so that an identity has one token per audience.
Topics that must not leak a reusable token carry a one-way digest of the identity instead.

## Sections
1. Parameters and errors
2. The codec
3. The one-way token
-/

namespace TopicGate

/-! ## §1 Parameters and errors -/

/-- Salt and least length of the identity tokens of one audience. -/
structure CodecParams where
  salt : String
  length : UInt64 := 0
deriving Repr, DecidableEq

inductive CodecError where
  /-- The text is no token of this audience. -/
  | undecodable (audience : Audience)
  /-- The audience has no parameters. -/
  | unknownAudience (audience : Audience)
deriving Repr, DecidableEq

def CodecError.message : CodecError → String
  | undecodable audience => "could not decode identity token for audience " ++ audience.name
  | unknownAudience audience => "no codec parameters configured for audience " ++ audience.name

/-! ## §2 The codec -/

/-- The token schemes of the configured audiences. -/
structure IdentityCodec where
  schemes : PerAudience Identity.Scheme
deriving Repr, DecidableEq

namespace IdentityCodec

/-- The codec for a table of parameters. -/
def ofParams (params : PerAudience CodecParams) : IdentityCodec :=
  ⟨params.map fun p => Identity.Scheme.ofSalt p.salt p.length.toNat⟩

def supports (codec : IdentityCodec) (audience : Audience) : Bool :=
  (codec.schemes.get? audience).isSome

def scheme (codec : IdentityCodec) (audience : Audience) : Except CodecError Identity.Scheme :=
  match codec.schemes.get? audience with
  | some scheme => .ok scheme
  | none => .error (.unknownAudience audience)

/-- The token of an identity. -/
def encode (codec : IdentityCodec) (id : UInt64) (audience : Audience) :
    Except CodecError String := do
  let scheme ← codec.scheme audience
  return String.ofList (scheme.encode [id.toNat])

/-- The identity of a token.  A code of several numbers is no token. -/
def decode (codec : IdentityCodec) (token : String) (audience : Audience) :
    Except CodecError UInt64 := do
  let scheme ← codec.scheme audience
  match scheme.decode? token.toList with
  | some [id] => return UInt64.ofNat id
  | _ => throw (.undecodable audience)

/-- A printable description that keeps the salts to itself. -/
def describe (codec : IdentityCodec) : String :=
  let entry (e : Audience × Identity.Scheme) : String :=
    (match e.1 with | .driver => "Driver" | .passenger => "Passenger") ++
      ": Hashids \x7b salt: \"[REDACTED]\", min_length: " ++ toString e.2.minLength ++ ", .. \x7d"
  "IdentityCodec \x7b encoders: \x7b" ++ String.intercalate ", " (codec.schemes.toList.map entry) ++
    "\x7d \x7d"

end IdentityCodec

/-! ## §3 The one-way token -/

/-- What is put in front of an identity before it is digested. -/
def secondaryHashLabel : String := "emqch"

/-- The one-way token of an identity: the MD5 digest of the labelled decimal number, in lower-case
hexadecimal digits. -/
def secondaryHash (id : UInt64) : String :=
  Digest.Md5.hex (Digest.Md5.digest (secondaryHashLabel ++ "-" ++ toString id.toNat).toUTF8.toList)

/-- How the identity token in a topic is derived. -/
inductive HashKind where
  /-- The token itself, which its audience can decode. -/
  | identity
  /-- The one-way digest of the identity. -/
  | secondaryHash
deriving Repr, DecidableEq

def HashKind.name : HashKind → String
  | identity => "identity"
  | secondaryHash => "secondary_hash"

end TopicGate
