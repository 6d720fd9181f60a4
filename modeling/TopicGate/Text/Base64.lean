/-!
# Base64

Bytes in 64 symbols, six bits each, without padding.  The two usual alphabets share letters and
digits and differ in the last two symbols.  Reading accepts exactly what writing produces: a last
symbol with unused bits must leave them zero.

## Sections
1. Alphabets
2. Writing
3. Reading
-/

namespace TopicGate.Text.Base64

/-! ## §1 Alphabets -/

/-- The two symbols behind the letters and digits. -/
structure Alphabet where
  symbol62 : Char
  symbol63 : Char
deriving Repr, DecidableEq

/-- The alphabet for text in general. -/
def standard : Alphabet := ⟨'+', '/'⟩

/-- The alphabet that is safe in addresses. -/
def address : Alphabet := ⟨'-', '_'⟩

namespace Alphabet

def symbol (alphabet : Alphabet) (n : Nat) : Char :=
  if n < 26 then Char.ofNat ('A'.toNat + n)
  else if n < 52 then Char.ofNat ('a'.toNat + (n - 26))
  else if n < 62 then Char.ofNat ('0'.toNat + (n - 52))
  else if n = 62 then alphabet.symbol62
  else alphabet.symbol63

/-- The six bits of a symbol. -/
def value? (alphabet : Alphabet) (c : Char) : Option Nat :=
  if c.isUpper then some (c.toNat - 'A'.toNat)
  else if c.isLower then some (c.toNat - 'a'.toNat + 26)
  else if c.isDigit then some (c.toNat - '0'.toNat + 52)
  else if c = alphabet.symbol62 then some 62
  else if c = alphabet.symbol63 then some 63
  else none

end Alphabet

/-! ## §2 Writing -/

/-- The six-bit values of bytes, by groups of three bytes and a shorter last group. -/
def values : List UInt8 → List Nat
  | [] => []
  | [a] => [a.toNat / 4, a.toNat % 4 * 16]
  | [a, b] => [a.toNat / 4, a.toNat % 4 * 16 + b.toNat / 16, b.toNat % 16 * 4]
  | a :: b :: c :: rest =>
    a.toNat / 4 :: (a.toNat % 4 * 16 + b.toNat / 16) :: (b.toNat % 16 * 4 + c.toNat / 64) ::
      c.toNat % 64 :: values rest

/-- The text of bytes. -/
def encode (alphabet : Alphabet) (bytes : List UInt8) : List Char :=
  (values bytes).map alphabet.symbol

/-! ## §3 Reading -/

/-- The bytes of groups of four values, and of a last group of two or three. -/
def bytes? : List Nat → Option (List UInt8)
  | [] => some []
  | [_] => none
  | [a, b] => if b % 16 = 0 then some [UInt8.ofNat (a * 4 + b / 16)] else none
  | [a, b, c] =>
    if c % 4 = 0 then
      some [UInt8.ofNat (a * 4 + b / 16), UInt8.ofNat (b % 16 * 16 + c / 4)]
    else none
  | a :: b :: c :: d :: rest =>
    (bytes? rest).map fun bytes =>
      UInt8.ofNat (a * 4 + b / 16) :: UInt8.ofNat (b % 16 * 16 + c / 4) ::
        UInt8.ofNat (c % 4 * 64 + d) :: bytes

/-- The bytes that a text stands for. -/
def decode? (alphabet : Alphabet) (text : List Char) : Option (List UInt8) := do
  let values ← text.mapM alphabet.value?
  bytes? values

end TopicGate.Text.Base64
