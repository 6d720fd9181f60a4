import TopicGate.Digest.Words

/-!
# Memory blocks

The unit of memory of Argon2: 1024 bytes, as eight rows of sixteen 64-bit words.  Two blocks are
compressed into one by permuting first the rows and then the columns of their sum, where a column
is two words wide.

## Sections
1. Rows
2. Blocks
3. Compression
-/

namespace TopicGate.Digest.Argon2

/-! ## §1 Rows -/

/-- Sixteen words. -/
structure Row where
  (w0 w1 w2 w3 w4 w5 w6 w7 : UInt64)
  (w8 w9 w10 w11 w12 w13 w14 w15 : UInt64)
deriving DecidableEq, Inhabited

namespace Row

def get (row : Row) : Nat → UInt64
  | 0 => row.w0
  | 1 => row.w1
  | 2 => row.w2
  | 3 => row.w3
  | 4 => row.w4
  | 5 => row.w5
  | 6 => row.w6
  | 7 => row.w7
  | 8 => row.w8
  | 9 => row.w9
  | 10 => row.w10
  | 11 => row.w11
  | 12 => row.w12
  | 13 => row.w13
  | 14 => row.w14
  | _ => row.w15

def xor (a b : Row) : Row :=
  ⟨a.w0 ^^^ b.w0, a.w1 ^^^ b.w1, a.w2 ^^^ b.w2, a.w3 ^^^ b.w3,
    a.w4 ^^^ b.w4, a.w5 ^^^ b.w5, a.w6 ^^^ b.w6, a.w7 ^^^ b.w7,
    a.w8 ^^^ b.w8, a.w9 ^^^ b.w9, a.w10 ^^^ b.w10, a.w11 ^^^ b.w11,
    a.w12 ^^^ b.w12, a.w13 ^^^ b.w13, a.w14 ^^^ b.w14, a.w15 ^^^ b.w15⟩

/-- The sixteen words from a place on. -/
def ofArray (words : Array UInt64) (start : Nat) : Row :=
  let w (i : Nat) : UInt64 := words.getD (start + i) 0
  ⟨w 0, w 1, w 2, w 3, w 4, w 5, w 6, w 7,
    w 8, w 9, w 10, w 11, w 12, w 13, w 14, w 15⟩

def toList (row : Row) : List UInt64 := (List.range 16).map row.get

/-- The sum of two words and twice the product of their lower halves. -/
@[inline] def addMul (x y : UInt64) : UInt64 :=
  x + y + 2 * (x &&& 0xffffffff) * (y &&& 0xffffffff)

/-- Mixes four words and passes them on. -/
@[inline] def mix {β : Type} (a b c d : UInt64) (k : UInt64 → UInt64 → UInt64 → UInt64 → β) : β :=
  let a := addMul a b
  let d := rotateRight (d ^^^ a) 32
  let c := addMul c d
  let b := rotateRight (b ^^^ c) 24
  let a := addMul a b
  let d := rotateRight (d ^^^ a) 16
  let c := addMul c d
  let b := rotateRight (b ^^^ c) 63
  k a b c d

/-- The permutation of sixteen words: columns, then diagonals, of the words as a square. -/
def permute (row : Row) : Row :=
  mix row.w0 row.w4 row.w8 row.w12 fun v0 v4 v8 v12 =>
  mix row.w1 row.w5 row.w9 row.w13 fun v1 v5 v9 v13 =>
  mix row.w2 row.w6 row.w10 row.w14 fun v2 v6 v10 v14 =>
  mix row.w3 row.w7 row.w11 row.w15 fun v3 v7 v11 v15 =>
  mix v0 v5 v10 v15 fun v0 v5 v10 v15 =>
  mix v1 v6 v11 v12 fun v1 v6 v11 v12 =>
  mix v2 v7 v8 v13 fun v2 v7 v8 v13 =>
  mix v3 v4 v9 v14 fun v3 v4 v9 v14 =>
  ⟨v0, v1, v2, v3, v4, v5, v6, v7, v8, v9, v10, v11, v12, v13, v14, v15⟩

end Row

/-! ## §2 Blocks -/

/-- Eight rows. -/
structure Block where
  (r0 r1 r2 r3 r4 r5 r6 r7 : Row)
deriving DecidableEq, Inhabited

namespace Block

def row (b : Block) : Nat → Row
  | 0 => b.r0
  | 1 => b.r1
  | 2 => b.r2
  | 3 => b.r3
  | 4 => b.r4
  | 5 => b.r5
  | 6 => b.r6
  | _ => b.r7

def get (b : Block) (i : Nat) : UInt64 := (b.row (i / 16)).get (i % 16)

/-- The block of a list of words, filled up with zeros. -/
def ofWords (words : List UInt64) : Block :=
  let words := words.toArray
  ⟨.ofArray words 0, .ofArray words 16, .ofArray words 32, .ofArray words 48,
    .ofArray words 64, .ofArray words 80, .ofArray words 96, .ofArray words 112⟩

def zero : Block := ofWords []

def ofBytes (bytes : List UInt8) : Block := ofWords ((chunks 8 bytes).map word64)

def toList (b : Block) : List UInt64 := (List.range 8).flatMap fun i => (b.row i).toList

def toBytes (b : Block) : List UInt8 := b.toList.flatMap fun w => littleEndian 8 w.toNat

def xor (a b : Block) : Block :=
  ⟨a.r0.xor b.r0, a.r1.xor b.r1, a.r2.xor b.r2, a.r3.xor b.r3,
    a.r4.xor b.r4, a.r5.xor b.r5, a.r6.xor b.r6, a.r7.xor b.r7⟩

/-- Columns of two words as rows. -/
def transpose (b : Block) : Block :=
  ⟨⟨b.r0.w0, b.r0.w1, b.r1.w0, b.r1.w1, b.r2.w0, b.r2.w1, b.r3.w0, b.r3.w1,
      b.r4.w0, b.r4.w1, b.r5.w0, b.r5.w1, b.r6.w0, b.r6.w1, b.r7.w0, b.r7.w1⟩,
    ⟨b.r0.w2, b.r0.w3, b.r1.w2, b.r1.w3, b.r2.w2, b.r2.w3, b.r3.w2, b.r3.w3,
      b.r4.w2, b.r4.w3, b.r5.w2, b.r5.w3, b.r6.w2, b.r6.w3, b.r7.w2, b.r7.w3⟩,
    ⟨b.r0.w4, b.r0.w5, b.r1.w4, b.r1.w5, b.r2.w4, b.r2.w5, b.r3.w4, b.r3.w5,
      b.r4.w4, b.r4.w5, b.r5.w4, b.r5.w5, b.r6.w4, b.r6.w5, b.r7.w4, b.r7.w5⟩,
    ⟨b.r0.w6, b.r0.w7, b.r1.w6, b.r1.w7, b.r2.w6, b.r2.w7, b.r3.w6, b.r3.w7,
      b.r4.w6, b.r4.w7, b.r5.w6, b.r5.w7, b.r6.w6, b.r6.w7, b.r7.w6, b.r7.w7⟩,
    ⟨b.r0.w8, b.r0.w9, b.r1.w8, b.r1.w9, b.r2.w8, b.r2.w9, b.r3.w8, b.r3.w9,
      b.r4.w8, b.r4.w9, b.r5.w8, b.r5.w9, b.r6.w8, b.r6.w9, b.r7.w8, b.r7.w9⟩,
    ⟨b.r0.w10, b.r0.w11, b.r1.w10, b.r1.w11, b.r2.w10, b.r2.w11, b.r3.w10, b.r3.w11,
      b.r4.w10, b.r4.w11, b.r5.w10, b.r5.w11, b.r6.w10, b.r6.w11, b.r7.w10, b.r7.w11⟩,
    ⟨b.r0.w12, b.r0.w13, b.r1.w12, b.r1.w13, b.r2.w12, b.r2.w13, b.r3.w12, b.r3.w13,
      b.r4.w12, b.r4.w13, b.r5.w12, b.r5.w13, b.r6.w12, b.r6.w13, b.r7.w12, b.r7.w13⟩,
    ⟨b.r0.w14, b.r0.w15, b.r1.w14, b.r1.w15, b.r2.w14, b.r2.w15, b.r3.w14, b.r3.w15,
      b.r4.w14, b.r4.w15, b.r5.w14, b.r5.w15, b.r6.w14, b.r6.w15, b.r7.w14, b.r7.w15⟩⟩

def permuteRows (b : Block) : Block :=
  ⟨b.r0.permute, b.r1.permute, b.r2.permute, b.r3.permute,
    b.r4.permute, b.r5.permute, b.r6.permute, b.r7.permute⟩

/-! ## §3 Compression -/

/-- Compresses two blocks into one. -/
def compress (a b : Block) : Block :=
  let sum := a.xor b
  (sum.permuteRows.transpose.permuteRows.transpose).xor sum

end Block

end TopicGate.Digest.Argon2
