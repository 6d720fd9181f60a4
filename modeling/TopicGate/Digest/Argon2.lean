import TopicGate.Digest.Argon2.Block
import TopicGate.Digest.Blake2b

/-!
# Argon2

The memory-hard password digest.  Memory is a table of blocks with a row of the table for every
lane; in several passes each block is computed from the one before it and one elsewhere in the
table, whose place is chosen by the data, or independently of it.

## Sections
1. Parameters
2. Long digests
3. The first blocks
4. Where the other block stands
5. Filling the memory
6. The tag
-/

namespace TopicGate.Digest.Argon2

/-! ## §1 Parameters -/

/-- How the place of the other block is chosen. -/
inductive Variant where
  /-- By the data. -/
  | d
  /-- Independently of the data. -/
  | i
  /-- Independently in the first half of the first pass, then by the data. -/
  | id
deriving Repr, DecidableEq

/-- The number of a variant in the first digest. -/
def Variant.code : Variant → Nat
  | d => 0
  | i => 1
  | id => 2

/-- The costs of a digest and what goes into it besides password and salt. -/
structure Params where
  variant : Variant
  /-- Version 16 overwrites memory in later passes, version 19 adds to it. -/
  version : Nat
  /-- Memory in blocks. -/
  memory : Nat
  passes : Nat
  lanes : Nat
  /-- Further data that the digest depends on. -/
  extra : List UInt8 := []
  /-- The size of the tag in bytes. -/
  size : Nat
deriving Repr, DecidableEq

namespace Params

/-- The number of blocks of a quarter of a lane. -/
def segment (p : Params) : Nat := p.memory / (4 * p.lanes)

/-- The number of blocks of a lane. -/
def laneLength (p : Params) : Nat := 4 * p.segment

def blocks (p : Params) : Nat := p.laneLength * p.lanes

end Params

/-! ## §2 Long digests -/

/-- The digests that a long digest is made of: `count` halves of digests of digests, and a last
one of `size` bytes. -/
def longTail (count size : Nat) (v : List UInt8) : List UInt8 :=
  match count with
  | 0 => Blake2b.digest size v
  | count + 1 =>
    let next := Blake2b.digest 64 v
    next.take 32 ++ longTail count size next

/-- A digest of any size. -/
def longDigest (size : Nat) (message : List UInt8) : List UInt8 :=
  let sized := littleEndian 4 size ++ message
  if size ≤ 64 then Blake2b.digest size sized
  else
    let count := (size + 31) / 32 - 2
    longTail count (size - 32 * count) sized

/-! ## §3 The first blocks -/

/-- Bytes with their number in front. -/
def counted (bytes : List UInt8) : List UInt8 := littleEndian 4 bytes.length ++ bytes

/-- The digest of all parameters and inputs. -/
def firstDigest (p : Params) (password salt : List UInt8) : List UInt8 :=
  Blake2b.digest 64
    (littleEndian 4 p.lanes ++ littleEndian 4 p.size ++ littleEndian 4 p.memory ++
      littleEndian 4 p.passes ++ littleEndian 4 p.version ++ littleEndian 4 p.variant.code ++
      counted password ++ counted salt ++ counted [] ++ counted p.extra)

/-- The memory with the first two blocks of every lane filled in. -/
def initialMemory (p : Params) (password salt : List UInt8) : Array Block :=
  let seed := firstDigest p password salt
  let blockAt (lane column : Nat) : Block :=
    .ofBytes (longDigest 1024 (seed ++ littleEndian 4 column ++ littleEndian 4 lane))
  (List.range p.lanes).foldl (fun memory lane =>
    (memory.setIfInBounds (lane * p.laneLength) (blockAt lane 0)).setIfInBounds
      (lane * p.laneLength + 1) (blockAt lane 1))
    (Array.replicate p.blocks Block.zero)

/-! ## §4 Where the other block stands -/

/-- A position in the order of computation: pass, quarter, lane, and index in the quarter. -/
structure Position where
  pass : Nat
  slice : Nat
  lane : Nat
  index : Nat

/-- Whether the other block is chosen independently of the data. -/
def isIndependent (p : Params) (pass slice : Nat) : Bool :=
  match p.variant with
  | .d => false
  | .i => true
  | .id => pass == 0 && slice < 2

/-- The `counter`-th block of independent choices. -/
def addressBlock (p : Params) (pass slice lane counter : Nat) : Block :=
  let words := [pass, lane, slice, p.blocks, p.passes, p.variant.code, counter]
  Block.zero.compress (Block.zero.compress (.ofWords (words.map UInt64.ofNat)))

/-- The place of the other block, from a 64-bit choice. -/
def otherPlace (p : Params) (pos : Position) (choice : UInt64) : Nat :=
  let low := (choice &&& 0xffffffff).toNat
  let high := (choice >>> 32).toNat
  let lane := if pos.pass = 0 ∧ pos.slice = 0 then pos.lane else high % p.lanes
  let sameLane := lane == pos.lane
  let before := if pos.pass = 0 then pos.slice * p.segment else p.laneLength - p.segment
  let area :=
    if sameLane then before + pos.index - 1
    else if pos.index = 0 then before - 1
    else before
  let x := (low * low) >>> 32
  let y := (area * x) >>> 32
  let start := if pos.pass = 0 ∨ pos.slice = 3 then 0 else (pos.slice + 1) * p.segment
  lane * p.laneLength + (start + area - 1 - y) % p.laneLength

/-! ## §5 Filling the memory -/

/-- Computes `count` blocks of a quarter of a lane from an index on.  `addresses` is the block of
independent choices in use. -/
def fillSegment (p : Params) (pass slice lane : Nat) (independent : Bool) (addresses : Block) :
    (index count : Nat) → Array Block → Array Block
  | _, 0, memory => memory
  | index, count + 1, memory =>
    let addresses :=
      if independent && index % 128 == 0 && index != 0 then
        addressBlock p pass slice lane (index / 128 + 1)
      else addresses
    let column := slice * p.segment + index
    let here := lane * p.laneLength + column
    let previous := if column = 0 then here + p.laneLength - 1 else here - 1
    let before := memory.getD previous Block.zero
    let choice := if independent then addresses.get (index % 128) else before.get 0
    let other := memory.getD (otherPlace p ⟨pass, slice, lane, index⟩ choice) Block.zero
    let fresh := before.compress other
    let value :=
      if pass = 0 ∨ p.version = 16 then fresh else fresh.xor (memory.getD here Block.zero)
    fillSegment p pass slice lane independent addresses (index + 1) count
      (memory.setIfInBounds here value)

/-- Computes a quarter of a lane.  Its first two blocks are there from the beginning. -/
def fillQuarter (p : Params) (pass slice : Nat) (memory : Array Block) (lane : Nat) :
    Array Block :=
  let start := if pass = 0 ∧ slice = 0 then 2 else 0
  let independent := isIndependent p pass slice
  let addresses := if independent then addressBlock p pass slice lane 1 else Block.zero
  fillSegment p pass slice lane independent addresses start (p.segment - start) memory

/-- Computes all blocks in all passes. -/
def fill (p : Params) (memory : Array Block) : Array Block :=
  (List.range p.passes).foldl (fun memory pass =>
    (List.range 4).foldl (fun memory slice =>
      (List.range p.lanes).foldl (fillQuarter p pass slice) memory) memory) memory

/-! ## §6 The tag -/

/-- The tag of a password: the digest of the sum of the last blocks of all lanes. -/
def tag (p : Params) (password salt : List UInt8) : List UInt8 :=
  let memory := fill p (initialMemory p password salt)
  let last (lane : Nat) : Block := memory.getD ((lane + 1) * p.laneLength - 1) Block.zero
  let sum := (List.range p.lanes).foldl (fun sum lane => sum.xor (last lane)) Block.zero
  longDigest p.size sum.toBytes

end TopicGate.Digest.Argon2
