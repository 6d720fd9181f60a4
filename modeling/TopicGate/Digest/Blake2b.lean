import TopicGate.Digest.Words

/-!
# BLAKE2b

The digest of up to 64 bytes without a key: a message is absorbed in blocks of sixteen 64-bit words,
each by twelve rounds on a state of sixteen words.

## Sections
1. Tables
2. Rounds
3. Messages
-/

namespace TopicGate.Digest.Blake2b

/-! ## §1 Tables -/

/-- The initial words: the first 64 bits of the fractions of the square roots of the first eight
primes. -/
def initial : Array UInt64 := #[
  0x6a09e667f3bcc908, 0xbb67ae8584caa73b, 0x3c6ef372fe94f82b, 0xa54ff53a5f1d36f1,
  0x510e527fade682d1, 0x9b05688c2b3e6c1f, 0x1f83d9abfb41bd6b, 0x5be0cd19137e2179]

/-- The order in which a round takes the words of a block. -/
def schedule : Array (Array Nat) := #[
  #[0, 1, 2, 3, 4, 5, 6, 7, 8, 9, 10, 11, 12, 13, 14, 15],
  #[14, 10, 4, 8, 9, 15, 13, 6, 1, 12, 0, 2, 11, 7, 5, 3],
  #[11, 8, 12, 0, 5, 2, 15, 13, 10, 14, 3, 6, 7, 1, 9, 4],
  #[7, 9, 3, 1, 13, 12, 11, 14, 2, 6, 5, 10, 4, 0, 15, 8],
  #[9, 0, 5, 7, 2, 4, 10, 15, 14, 1, 11, 12, 6, 8, 3, 13],
  #[2, 12, 6, 10, 0, 11, 8, 3, 4, 13, 7, 5, 15, 14, 1, 9],
  #[12, 5, 1, 15, 14, 13, 4, 10, 0, 7, 6, 3, 9, 2, 8, 11],
  #[13, 11, 7, 14, 12, 1, 3, 9, 5, 0, 15, 4, 8, 6, 2, 10],
  #[6, 15, 14, 9, 11, 3, 0, 8, 12, 2, 13, 7, 1, 4, 10, 5],
  #[10, 2, 8, 4, 7, 6, 1, 5, 15, 11, 9, 14, 3, 12, 13, 0]]

/-- The places of the four words that each step of a round mixes: first the columns of the state,
then its diagonals. -/
def places : List (Nat × Nat × Nat × Nat) :=
  [(0, 4, 8, 12), (1, 5, 9, 13), (2, 6, 10, 14), (3, 7, 11, 15),
    (0, 5, 10, 15), (1, 6, 11, 12), (2, 7, 8, 13), (3, 4, 9, 14)]

/-! ## §2 Rounds -/

/-- Mixes two words of the message into four words of the state. -/
def mix (v : Array UInt64) (spot : Nat × Nat × Nat × Nat) (x y : UInt64) : Array UInt64 :=
  let (ia, ib, ic, id) := spot
  let a := v.getD ia 0 + v.getD ib 0 + x
  let d := rotateRight (v.getD id 0 ^^^ a) 32
  let c := v.getD ic 0 + d
  let b := rotateRight (v.getD ib 0 ^^^ c) 24
  let a := a + b + y
  let d := rotateRight (d ^^^ a) 16
  let c := c + d
  let b := rotateRight (b ^^^ c) 63
  (((v.setIfInBounds ia a).setIfInBounds ib b).setIfInBounds ic c).setIfInBounds id d

def round (block : Array UInt64) (v : Array UInt64) (i : Nat) : Array UInt64 :=
  let order := schedule.getD (i % 10) #[]
  (places.zipIdx).foldl (fun v (spot, k) =>
    mix v spot (block.getD (order.getD (2 * k) 0) 0) (block.getD (order.getD (2 * k + 1) 0) 0)) v

/-- Absorbs a block, with `count` message bytes up to its end. -/
def absorb (h : Array UInt64) (block : Array UInt64) (count : Nat) (last : Bool) :
    Array UInt64 :=
  let low := UInt64.ofNat count
  let high := UInt64.ofNat (count >>> 64)
  let v := h ++ initial
  let v := v.setIfInBounds 12 (v.getD 12 0 ^^^ low)
  let v := v.setIfInBounds 13 (v.getD 13 0 ^^^ high)
  let v := if last then v.setIfInBounds 14 (~~~(v.getD 14 0)) else v
  let v := (List.range 12).foldl (round block) v
  Array.ofFn fun i : Fin 8 => h.getD i 0 ^^^ v.getD i 0 ^^^ v.getD (i + 8) 0

/-! ## §3 Messages -/

/-- The words of a block, filled up with zeros. -/
def blockOf (bytes : List UInt8) : Array UInt64 :=
  let full := bytes ++ List.replicate (128 - bytes.length) 0
  ((chunks 8 full).map word64).toArray

/-- Absorbs the blocks of a message of which `count` bytes have been absorbed. -/
def absorbAll (h : Array UInt64) (count : Nat) : List (List UInt8) → Array UInt64
  | [] => absorb h (blockOf []) count true
  | [block] => absorb h (blockOf block) (count + block.length) true
  | block :: rest =>
    absorbAll (absorb h (blockOf block) (count + block.length) false) (count + block.length) rest

/-- The digest of `size` bytes of a message. -/
def digest (size : Nat) (message : List UInt8) : List UInt8 :=
  let parameters := UInt64.ofNat (0x01010000 + size)
  let h := initial.setIfInBounds 0 (initial.getD 0 0 ^^^ parameters)
  let h := absorbAll h 0 (chunks 128 message)
  (h.toList.flatMap fun w => littleEndian 8 w.toNat).take size

end TopicGate.Digest.Blake2b
