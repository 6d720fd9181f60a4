import TopicGate.Json.Basic

/-!
# Tokens of a JSON document

A document is a sequence of bytes.  It is read one byte at a time into tokens: marks, words, numbers
and quoted texts.  A number keeps its digits and a quoted text its bytes and escapes, because
whether they denote a value depends on what the document is read for.

## Sections
1. Number literals
2. Quoted texts
3. Tokens
4. Reading bytes into tokens
-/

namespace TopicGate.Json

/-! ## §1 Number literals -/

/-- A number as it is written: sign, digits before the point, digits after it, exponent. -/
structure NumberLiteral where
  negative : Bool
  whole : List Nat
  fraction : Option (List Nat)
  exponent : Option (Bool × List Nat)
deriving Repr

namespace NumberLiteral

/-- The leading digits of a sequence of bytes, and what follows them. -/
def digits : List UInt8 → List Nat × List UInt8
  | [] => ([], [])
  | b :: rest =>
    if '0'.toUInt8 ≤ b ∧ b ≤ '9'.toUInt8 then
      let (ds, after) := digits rest
      ((b.toNat - '0'.toNat) :: ds, after)
    else ([], b :: rest)

/-- Reads the part behind an exponent mark. -/
def exponentOf? (bytes : List UInt8) : Option (Bool × List Nat) :=
  let (negative, rest) :=
    if bytes.head? = some '+'.toUInt8 then (false, bytes.drop 1)
    else if bytes.head? = some '-'.toUInt8 then (true, bytes.drop 1)
    else (false, bytes)
  match digits rest with
  | ([], _) => none
  | (ds, []) => some (negative, ds)
  | _ => none

/-- Reads a whole number literal: no leading zeros, and at least one digit before and behind the
point and in the exponent. -/
def ofBytes? (bytes : List UInt8) : Option NumberLiteral := do
  let (negative, rest) :=
    if bytes.head? = some '-'.toUInt8 then (true, bytes.drop 1) else (false, bytes)
  let (whole, rest) := digits rest
  if whole = [] ∨ (whole.head? = some 0 ∧ whole ≠ [0]) then none
  let (fraction, rest) ←
    if rest.head? = some '.'.toUInt8 then
      match digits (rest.drop 1) with
      | ([], _) => none
      | (ds, rest) => some (some ds, rest)
    else some (none, rest)
  let exponent ← match rest with
    | [] => some none
    | mark :: rest =>
      if mark = 'e'.toUInt8 ∨ mark = 'E'.toUInt8 then (exponentOf? rest).map some else none
  return { negative, whole, fraction, exponent }

/-- Significant digits are gathered while they fit in 64 bits. -/
def maxSignificand : Nat := UInt64.size - 1

/-- Gathers digits of the whole part: those that no longer fit raise the power of ten. -/
def gatherWhole (significand : Nat) : List Nat → Nat × Nat
  | [] => (significand, 0)
  | d :: rest =>
    if significand * 10 + d ≤ maxSignificand then gatherWhole (significand * 10 + d) rest
    else (significand, rest.length + 1)

/-- Gathers digits of the fraction: each lowers the power of ten, and those from the first that does
not fit are dropped. -/
def gatherFraction (significand : Nat) : List Nat → Nat × Nat
  | [] => (significand, 0)
  | d :: rest =>
    if significand * 10 + d ≤ maxSignificand then
      let (s, n) := gatherFraction (significand * 10 + d) rest
      (s, n + 1)
    else (significand, 0)

/-- The natural number with the given decimal digits. -/
def natOf (ds : List Nat) : Nat := ds.foldl (fun n d => n * 10 + d) 0

/-- The exponent, cut off at the limit of 32 bits. -/
def exponentValue (e : Option (Bool × List Nat)) : Int :=
  match e with
  | none => 0
  | some (negative, ds) =>
    let limit := Int32.maxValue.toInt
    let n : Int := if natOf ds < limit then natOf ds else limit
    if negative then -n else n

/-- The value of a number literal: an integer when it is written as one and fits in 64 bits, and is
not a negative zero; else the double read from its first digits; `none` beyond the greatest
double. -/
def value? (literal : NumberLiteral) : Option Json :=
  let (significand, dropped) := gatherWhole 0 literal.whole
  match literal.fraction, literal.exponent with
  | none, none =>
    -- A negative zero is no integer, and neither is what lost digits.
    if dropped = 0 ∧ ¬ literal.negative then some (int significand)
    else if dropped = 0 ∧ significand ≠ 0 ∧ significand ≤ Nat.pow 2 63 then some (int (-significand))
    else (Double.ofDecimal? literal.negative significand dropped).map real
  | fraction, exponent =>
    let (significand, placed) := gatherFraction significand (fraction.getD [])
    let power := (dropped : Int) - (placed : Int) + exponentValue exponent
    (Double.ofDecimal? literal.negative significand power).map real

end NumberLiteral

/-! ## §2 Quoted texts -/

/-- A piece of a quoted text: a byte, or a 16-bit unit written as an escape. -/
inductive TextPiece where
  | byte (value : UInt8)
  | unit (value : Nat)
deriving Repr, DecidableEq

/-- A quoted text as it is written. -/
abbrev RawText := List TextPiece

namespace RawText

/-- The UTF-8 bytes of a quoted text; `none` if a surrogate unit stands without its partner. -/
def bytes? : RawText → Option (List UInt8)
  | [] => some []
  | .byte b :: rest => (bytes? rest).map (b :: ·)
  | .unit high :: .unit low :: rest =>
    -- Two surrogates make one character; any other unit is one by itself.
    if 0xD800 ≤ high ∧ high < 0xDC00 then
      if 0xDC00 ≤ low ∧ low < 0xE000 then
        let code := 0x10000 + (high - 0xD800) * 0x400 + (low - 0xDC00)
        (bytes? rest).map (String.utf8EncodeChar (Char.ofNat code) ++ ·)
      else none
    else if 0xDC00 ≤ high ∧ high < 0xE000 then none
    else (bytes? (.unit low :: rest)).map (String.utf8EncodeChar (Char.ofNat high) ++ ·)
  | .unit code :: rest =>
    if 0xD800 ≤ code ∧ code < 0xE000 then none
    else (bytes? rest).map (String.utf8EncodeChar (Char.ofNat code) ++ ·)

/-- The text; `none` unless it is well-formed Unicode. -/
def value? (raw : RawText) : Option String := do
  let bytes ← raw.bytes?
  String.fromUTF8? ⟨bytes.toArray⟩

end RawText

/-! ## §3 Tokens -/

/-- A token of a document. -/
inductive Token where
  | openArray
  | closeArray
  | openObject
  | closeObject
  | colon
  | comma
  | null
  | bool (value : Bool)
  | number (literal : NumberLiteral)
  | text (raw : RawText)
deriving Repr

/-! ## §4 Reading bytes into tokens -/

/-- What is being read; the parts read so far are kept in reverse. -/
inductive Lexing where
  | between
  | word (read : List UInt8)
  | number (read : List UInt8)
  | text (read : List TextPiece)
  | escape (read : List TextPiece)
  | hex (read : List TextPiece) (missing : Nat) (value : Nat)

/-- The tokens read so far, in reverse, and what is being read. -/
structure Lexer where
  tokens : List Token
  reading : Lexing

namespace Lexer

def wordToken? (read : List UInt8) : Option Token :=
  let word := read.reverse
  if word = "null".toUTF8.toList then some .null
  else if word = "true".toUTF8.toList then some (.bool true)
  else if word = "false".toUTF8.toList then some (.bool false)
  else none

def numberToken? (read : List UInt8) : Option Token :=
  (NumberLiteral.ofBytes? read.reverse).map .number

def isDigit (b : UInt8) : Bool := '0'.toUInt8 ≤ b && b ≤ '9'.toUInt8

/-- A lower-case letter: all words are made of them. -/
def isLetter (b : UInt8) : Bool := 'a'.toUInt8 ≤ b && b ≤ 'z'.toUInt8

/-- Bytes that may stand in a number: digits, signs, the point and the exponent marks. -/
def isNumberByte (b : UInt8) : Bool :=
  isDigit b || b == '+'.toUInt8 || b == '-'.toUInt8 || b == '.'.toUInt8 ||
    b == 'e'.toUInt8 || b == 'E'.toUInt8

def hexValue? (b : UInt8) : Option Nat :=
  if isDigit b then some (b.toNat - '0'.toNat)
  else if 'A'.toUInt8 ≤ b ∧ b ≤ 'F'.toUInt8 then some (b.toNat - 'A'.toNat + 10)
  else if 'a'.toUInt8 ≤ b ∧ b ≤ 'f'.toUInt8 then some (b.toNat - 'a'.toNat + 10)
  else none

/-- The byte a one-letter escape stands for. -/
def escapeByte? (b : UInt8) : Option UInt8 :=
  if b = '"'.toUInt8 ∨ b = '\\'.toUInt8 ∨ b = '/'.toUInt8 then some b
  else if b = 'b'.toUInt8 then some 8
  else if b = 'f'.toUInt8 then some 12
  else if b = 'n'.toUInt8 then some 10
  else if b = 'r'.toUInt8 then some 13
  else if b = 't'.toUInt8 then some 9
  else none

/-- Reads a byte that stands outside words, numbers and quoted texts. -/
def start (tokens : List Token) (b : UInt8) : Option Lexer :=
  if b = ' '.toUInt8 ∨ b = '\n'.toUInt8 ∨ b = '\r'.toUInt8 ∨ b = '\t'.toUInt8 then
    some ⟨tokens, .between⟩
  else if b = '['.toUInt8 then some ⟨.openArray :: tokens, .between⟩
  else if b = ']'.toUInt8 then some ⟨.closeArray :: tokens, .between⟩
  else if b = '\x7b'.toUInt8 then some ⟨.openObject :: tokens, .between⟩
  else if b = '\x7d'.toUInt8 then some ⟨.closeObject :: tokens, .between⟩
  else if b = ':'.toUInt8 then some ⟨.colon :: tokens, .between⟩
  else if b = ','.toUInt8 then some ⟨.comma :: tokens, .between⟩
  else if b = '"'.toUInt8 then some ⟨tokens, .text []⟩
  else if isDigit b || b == '-'.toUInt8 then some ⟨tokens, .number [b]⟩
  else if isLetter b then some ⟨tokens, .word [b]⟩
  else none

/-- Reads one byte. -/
def step (lexer : Lexer) (b : UInt8) : Option Lexer :=
  match lexer.reading with
  | .between => start lexer.tokens b
  -- Words and numbers end before the first byte that cannot belong to them.
  | .word read =>
    if isLetter b then some { lexer with reading := .word (b :: read) }
    else (wordToken? read).bind fun token => start (token :: lexer.tokens) b
  | .number read =>
    if isNumberByte b then some { lexer with reading := .number (b :: read) }
    else (numberToken? read).bind fun token => start (token :: lexer.tokens) b
  | .text read =>
    if b = '"'.toUInt8 then some ⟨.text read.reverse :: lexer.tokens, .between⟩
    else if b = '\\'.toUInt8 then some { lexer with reading := .escape read }
    -- Control characters have to be escaped.
    else if b < 32 then none
    else some { lexer with reading := .text (.byte b :: read) }
  | .escape read =>
    if b = 'u'.toUInt8 then some { lexer with reading := .hex read 4 0 }
    else (escapeByte? b).map fun value => { lexer with reading := .text (.byte value :: read) }
  | .hex read missing value =>
    (hexValue? b).map fun digit =>
      let value := value * 16 + digit
      if missing ≤ 1 then { lexer with reading := .text (.unit value :: read) }
      else { lexer with reading := .hex read (missing - 1) value }

/-- Completes the last token at the end of the document. -/
def finish (lexer : Lexer) : Option (List Token) :=
  match lexer.reading with
  | .between => some lexer.tokens.reverse
  | .word read => (wordToken? read).map fun token => (token :: lexer.tokens).reverse
  | .number read => (numberToken? read).map fun token => (token :: lexer.tokens).reverse
  | _ => none

end Lexer

def tokens? (bytes : List UInt8) : Option (List Token) := do
  let lexer ← bytes.foldlM Lexer.step ⟨[], .between⟩
  lexer.finish

end TopicGate.Json
