import TopicGate.Text.Digits

/-!
# Texts in TOML

A text stands in double quotes, with escapes, or in single quotes, where every character is itself.
Either kind of quote may be tripled; then the text may span lines, a line break right behind the
opening quotes is not part of it, and up to two quotes may stand before the closing ones.

## Sections
1. Characters
2. Escapes
3. Texts on one line
4. Texts that span lines
-/

namespace TopicGate.Toml

/-! ## §1 Characters -/

/-- A character that may stand in a comment or a text: no control character but the tab. -/
def isTextChar (c : Char) : Bool := c == '\t' || (32 ≤ c.toNat && c.toNat != 127)

def isBlank (c : Char) : Bool := c == ' ' || c == '\t'

/-! ## §2 Escapes -/

/-- The character a one-letter escape stands for. -/
def escaped? : Char → Option Char
  | 'b' => some '\x08'
  | 't' => some '\t'
  | 'n' => some '\n'
  | 'f' => some '\x0c'
  | 'r' => some '\r'
  | '"' => some '"'
  | '\\' => some '\\'
  | _ => none

/-- The character with a given code point. -/
def scalar? (n : Nat) : Option Char :=
  if n.isValidChar then some (Char.ofNat n) else none

/-- Where in a text with escapes the next character stands. -/
inductive Within where
  | plain
  | escape
  /-- Inside an escaped code point, of which `left` digits are missing. -/
  | code (left value : Nat)
  /-- Behind a backslash and blanks, on a line that has to end now. -/
  | trailing
  /-- At the start of a line that continues the one before it. -/
  | joining

/-- Where the character behind the first of an escape stands, and the escaped character if that
was all. -/
def startEscape? : Char → Option (Within × Option Char)
  | 'u' => some (.code 4 0, none)
  | 'U' => some (.code 8 0, none)
  | c => (escaped? c).map fun e => (.plain, some e)

/-- Reads a digit of an escaped code point. -/
def stepCode? (left value : Nat) (c : Char) : Option (Within × Option Char) := do
  let digit ← Text.digitValue? c
  let value := 16 * value + digit
  if left ≤ 1 then
    let char ← scalar? value
    return (.plain, some char)
  else
    return (.code (left - 1) value, none)

/-- Adds a character, if there is one, to a text in reverse. -/
def keep (read : List Char) : Option Char → List Char
  | none => read
  | some c => c :: read

/-! ## §3 Texts on one line -/

/-- The text up to the closing double quote, and what follows it. -/
def basicText? (read : List Char) (within : Within) : List Char → Option (String × List Char)
  | [] => none
  | c :: rest => match within with
    | .escape => do
      let (next, char) ← startEscape? c
      basicText? (keep read char) next rest
    | .code left value => do
      let (next, char) ← stepCode? left value c
      basicText? (keep read char) next rest
    | _ =>
      if c = '"' then some (String.ofList read.reverse, rest)
      else if c = '\\' then basicText? read .escape rest
      else if isTextChar c then basicText? (c :: read) .plain rest
      else none

/-- The text up to the closing single quote, and what follows it. -/
def literalText? (read : List Char) : List Char → Option (String × List Char)
  | [] => none
  | c :: rest =>
    if c = '\'' then some (String.ofList read.reverse, rest)
    else if isTextChar c then literalText? (c :: read) rest
    else none

/-! ## §4 Texts that span lines -/

def dropNewline : List Char → List Char
  | '\n' :: rest => rest
  | '\r' :: '\n' :: rest => rest
  | cs => cs

/-- The text up to the closing triple of double quotes, and what follows it.  A backslash at the end
of a line joins it with the next text, without the blanks and line breaks between. -/
def longBasicText? (read : List Char) (within : Within) : List Char → Option (String × List Char)
  -- A line break counts as a line feed, however it is written.
  | '\r' :: '\n' :: rest => match within with
    | .plain => longBasicText? ('\n' :: read) .plain rest
    | .escape | .trailing | .joining => longBasicText? read .joining rest
    | .code _ _ => none
  | c :: rest => match within with
    | .escape =>
      if c = '\n' then longBasicText? read .joining rest
      else if isBlank c then longBasicText? read .trailing rest
      else do
        let (next, char) ← startEscape? c
        longBasicText? (keep read char) next rest
    | .code left value => do
      let (next, char) ← stepCode? left value c
      longBasicText? (keep read char) next rest
    | .trailing =>
      if c = '\n' then longBasicText? read .joining rest
      else if isBlank c then longBasicText? read .trailing rest
      else none
    | .plain | .joining =>
      let joining := match within with
        | .joining => true
        | _ => false
      -- One or two quotes may stand right before the closing three.
      if c = '"' then match rest with
        | '"' :: '"' :: '"' :: '"' :: rest =>
          some (String.ofList ('"' :: '"' :: read).reverse, rest)
        | '"' :: '"' :: '"' :: rest => some (String.ofList ('"' :: read).reverse, rest)
        | '"' :: '"' :: rest => some (String.ofList read.reverse, rest)
        | _ => longBasicText? ('"' :: read) .plain rest
      else if c = '\\' then longBasicText? read .escape rest
      else if joining && (c == '\n' || isBlank c) then longBasicText? read .joining rest
      else if c = '\n' || isTextChar c then longBasicText? (c :: read) .plain rest
      else none
  | [] => none

/-- The text up to the closing triple of single quotes, and what follows it. -/
def longLiteralText? (read : List Char) : List Char → Option (String × List Char)
  | '\'' :: '\'' :: '\'' :: '\'' :: '\'' :: rest =>
    some (String.ofList ('\'' :: '\'' :: read).reverse, rest)
  | '\'' :: '\'' :: '\'' :: '\'' :: rest => some (String.ofList ('\'' :: read).reverse, rest)
  | '\'' :: '\'' :: '\'' :: rest => some (String.ofList read.reverse, rest)
  | '\r' :: '\n' :: rest => longLiteralText? ('\n' :: read) rest
  | c :: rest =>
    if c = '\n' || isTextChar c then longLiteralText? (c :: read) rest else none
  | [] => none

end TopicGate.Toml
