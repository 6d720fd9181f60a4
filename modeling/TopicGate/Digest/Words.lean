/-!
# Words and bytes

Numbers as bytes, least significant byte first, and rotations of 64-bit words.
-/

namespace TopicGate.Digest

/-- The lowest `count` bytes of a number, least significant first. -/
def littleEndian (count n : Nat) : List UInt8 :=
  (List.range count).map fun i => UInt8.ofNat (n >>> (8 * i))

/-- The 64-bit word with the given bytes, least significant first. -/
def word64 (bytes : List UInt8) : UInt64 :=
  bytes.foldr (fun byte word => (word <<< 8) ||| byte.toUInt64) 0

/-- Cuts a list into pieces of `n`; the last may be shorter. -/
def chunks {α : Type} (n : Nat) (xs : List α) : List (List α) :=
  if _h : xs = [] ∨ n = 0 then []
  else xs.take n :: chunks n (xs.drop n)
termination_by xs.length
decreasing_by
  have : 0 < xs.length := List.length_pos_iff.2 (by simp_all)
  simp only [List.length_drop]
  omega

@[inline] def rotateRight (x n : UInt64) : UInt64 := (x >>> n) ||| (x <<< (64 - n))

end TopicGate.Digest
