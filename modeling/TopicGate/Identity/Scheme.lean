import TopicGate.Identity.Shuffle
import TopicGate.Identity.Numeral

/-!
# Code schemes

Short printable codes for lists of numbers, salted so that codes of two salts look unrelated.  The
62 letters and digits are divided into the symbols that write numbers, the separators between the
numbers, and the guards that fence off padding.

## Sections
1. Dividing the alphabet
2. The core of a code
3. Padding
4. Writing
5. Reading
-/

namespace TopicGate.Identity

/-! ## §1 Dividing the alphabet -/

/-- The letters and digits a code is made of. -/
def codeSymbols : List Char :=
  "abcdefghijklmnopqrstuvwxyzABCDEFGHIJKLMNOPQRSTUVWXYZ1234567890".toList

/-- The letters kept apart to stand between numbers. -/
def separatorSymbols : List Char := "cfhistuCFHISTU".toList

/-- How many symbols serve as guards: a twelfth of those that are no separators. -/
def guardCount : Nat := 4

/-- A salted division of the letters and digits, with the least length of a code. -/
structure Scheme where
  /-- The UTF-8 bytes of the salt. -/
  salt : List Nat
  minLength : Nat
  /-- The symbols that write numbers. -/
  alphabet : List Char
  separators : List Char
  guards : List Char
deriving Repr, DecidableEq

namespace Scheme

def symbolKey (symbols : List Char) : List Nat := symbols.map Char.toNat

/-- The division that a salt makes: separators and the other symbols are shuffled each for
themselves, and the first of the others become the guards. -/
def ofSalt (salt : String) (minLength : Nat) : Scheme :=
  let key := salt.toUTF8.toList.map UInt8.toNat
  let others := shuffle key (codeSymbols.filter fun c => !separatorSymbols.contains c)
  { salt := key
    minLength
    alphabet := others.drop guardCount
    separators := shuffle key separatorSymbols
    guards := others.take guardCount }

/-- Reorders a working alphabet for the next number of a code that starts with `lottery`. -/
def reshuffle (scheme : Scheme) (lottery : Char) (alphabet : List Char) : List Char :=
  -- The key begins with the first symbol of the code and the salt; what is left of it, up to the size
  -- of the alphabet, is the alphabet itself.
  shuffle ((lottery.toNat :: (scheme.salt ++ symbolKey alphabet)).take alphabet.length) alphabet

/-! ## §2 The core of a code -/

/-- A checksum of the numbers: it chooses the first symbol and the guards. -/
def checksum (numbers : List Nat) : Nat :=
  numbers.zipIdx.foldl (fun sum entry => sum + entry.1 % (entry.2 + 100)) 0

/-- The separator behind the number `n` at position `i`, written with `digits`. -/
def separatorFor (scheme : Scheme) (n i : Nat) (digits : List Char) : Char :=
  let reduced := n % ((digits.headD '0').toNat + i)
  scheme.separators.getD (reduced % scheme.separators.length) '0'

/-- Writes the numbers from position `i` on with separators between them.  Returns the working
alphabet after the last number as well. -/
def writeNumbers (scheme : Scheme) (lottery : Char) (alphabet : List Char) (i : Nat) :
    List Nat → List Char × List Char
  | [] => (alphabet, [])
  | [n] =>
    -- No separator stands behind the last number.
    let alphabet := scheme.reshuffle lottery alphabet
    (alphabet, numeral alphabet n)
  | n :: rest =>
    let alphabet := scheme.reshuffle lottery alphabet
    let digits := numeral alphabet n
    let (last, symbols) := writeNumbers scheme lottery alphabet (i + 1) rest
    (last, digits ++ scheme.separatorFor n i digits :: symbols)

/-! ## §3 Padding -/

/-- Fences a code that is too short: a guard goes in front, and if that does not suffice another
one goes behind. -/
def fence (scheme : Scheme) (checksum : Nat) (core : List Char) : List Char :=
  let guardFor (c : Char) : Char :=
    scheme.guards.getD ((checksum + c.toNat) % scheme.guards.length) '0'
  if core.length < scheme.minLength then
    let fenced := guardFor (core.headD '0') :: core
    if fenced.length < scheme.minLength then fenced ++ [guardFor (fenced.getD 2 '0')] else fenced
  else core

/-- Grows a fenced code to the least length: each round puts one half of the reshuffled alphabet on
either side, and the last one keeps the middle. -/
def grow (minLength : Nat) (alphabet code : List Char) : List Char :=
  if code.length < minLength ∧ alphabet ≠ [] then
    let alphabet' := shuffle (symbolKey alphabet) alphabet
    let half := alphabet'.length / 2
    let padded := alphabet'.drop half ++ code ++ alphabet'.take half
    -- What is too much is cut evenly, one symbol more behind than in front if it is odd.
    if minLength < padded.length then
      (padded.drop ((padded.length - minLength) / 2)).take minLength
    else grow minLength alphabet' padded
  else code
termination_by minLength - code.length
decreasing_by
  -- A round adds the whole alphabet, which is not empty.
  rename_i h _
  have : 0 < alphabet.length := List.length_pos_iff.2 h.2
  simp only [List.length_append, List.length_drop, List.length_take, length_shuffle]
  omega

/-! ## §4 Writing -/

/-- The code of a list of numbers; the empty list has the empty code. -/
def encode (scheme : Scheme) (numbers : List Nat) : List Char :=
  if numbers = [] then []
  else
    let sum := checksum numbers
    -- The first symbol keys all shuffles, so a reader finds it before anything else.
    let lottery := scheme.alphabet.getD (sum % scheme.alphabet.length) '0'
    let (alphabet, symbols) := scheme.writeNumbers lottery scheme.alphabet 0 numbers
    grow scheme.minLength alphabet (scheme.fence sum (lottery :: symbols))

/-! ## §5 Reading -/

/-- The pieces of a text between its marks. -/
def splitAtMarks (isMark : Char → Bool) : List Char → List (List Char)
  | [] => [[]]
  | c :: rest =>
    if isMark c then [] :: splitAtMarks isMark rest
    else match splitAtMarks isMark rest with
      | [] => [[c]]
      | piece :: pieces => (c :: piece) :: pieces

/-- The part of a code that carries the numbers: the one behind the first guard, if there are one
or two guards. -/
def coreOf (scheme : Scheme) (code : List Char) : List Char :=
  match splitAtMarks scheme.guards.contains code with
  -- One guard, or two with the core between them.
  | [_, core] => core
  | [_, core, _] => core
  | core :: _ => core
  | [] => []

/-- Reads the numbers of a core whose pieces stood between separators. -/
def readNumbers? (scheme : Scheme) (lottery : Char) :
    (alphabet : List Char) → List (List Char) → Option (List Nat)
  | _, [] => some []
  | alphabet, piece :: pieces => do
    let alphabet := scheme.reshuffle lottery alphabet
    let n ← numeralValue? alphabet piece
    let rest ← readNumbers? scheme lottery alphabet pieces
    return n :: rest

/-- The numbers of a code; `none` unless the code is the one that these numbers have. -/
def decode? (scheme : Scheme) (code : List Char) : Option (List Nat) :=
  match scheme.coreOf code with
  | [] => none
  | lottery :: rest => do
    let pieces := splitAtMarks scheme.separators.contains rest
    -- Other cores and other padding may read as the same numbers; only one code is theirs.
    let numbers ← scheme.readNumbers? lottery scheme.alphabet pieces
    if scheme.encode numbers = code then some numbers else none

end Scheme

end TopicGate.Identity
