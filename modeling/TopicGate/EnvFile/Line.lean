import TopicGate.Text.Blank

/-!
# Lines of an environment file

An environment file is read by logical lines: a quoted value may go on behind a line break, a line
whose first mark is `#` is skipped, and a `#` behind a single blank starts a comment.

## Sections
1. Physical lines
2. Where a line is left
3. Logical lines
-/

namespace TopicGate.EnvFile

/-! ## §1 Physical lines -/

/-- The lines of a text, each with its line feed if it has one. -/
def physicalLines (text : List Char) : List (List Char) :=
  go [] text
where
  /-- Splits with the current line in reverse. -/
  go (line : List Char) : List Char → List (List Char)
    | [] => if line.isEmpty then [] else [line.reverse]
    | c :: rest => if c = '\n' then ('\n' :: line).reverse :: go [] rest else go (c :: line) rest

/-! ## §2 Where a line is left -/

/-- What stands before the next character. -/
inductive Position where
  | plain
  /-- A blank: a mark for a comment counts here. -/
  | blank
  | escape
  | strong
  | strongEscape
  | weak
  | weakEscape
  | comment
deriving Repr, DecidableEq

/-- The position behind a character that opens something, or is plain. -/
def Position.opening (c : Char) : Position :=
  if c = '\\' then .escape
  else if c = '"' then .weak
  else if c = '\'' then .strong
  else .plain

/-- The position behind a character. -/
def Position.next (c : Char) : Position → Position
  | .plain =>
    if Text.isBlank c && c != '\n' && c != '\r' then .blank else .opening c
  | .blank => if c = '#' then .comment else .opening c
  | .escape => .plain
  -- The end of a line is found as if a backslash escaped between single quotes, too.
  | .strong => if c = '\\' then .strongEscape else if c = '\'' then .plain else .strong
  | .strongEscape => .strong
  | .weak => if c = '\\' then .weakEscape else if c = '"' then .plain else .weak
  | .weakEscape => .weak
  | .comment => .comment

/-- Reads a line up to its comment: where it is left, and what stands before the comment. -/
def scan (position : Position) : List Char → Position × List Char
  | [] => (position, [])
  | c :: rest =>
    match position.next c with
    | .comment => (.comment, [])
    | next =>
      let (final, kept) := scan next rest
      (final, c :: kept)

/-! ## §3 Logical lines -/

/-- A line without its line break. -/
def withoutBreak (line : List Char) : List Char :=
  match line.reverse with
  | '\n' :: '\r' :: rest => rest.reverse
  | '\n' :: rest => rest.reverse
  | _ => line

/-- Joins physical lines; `read` is the unfinished line before them, left at `position`.  An
unfinished line at the end of the file is `none`. -/
def joinLines (read : List Char) (position : Position) :
    List (List Char) → List (Option (List Char))
  | [] => if position = .plain then [] else [none]
  | line :: rest =>
    -- A comment of its own is no line; inside an unfinished line it is text like any other.
    if read.isEmpty && (line.dropWhile Text.isBlank).head? == some '#' then
      joinLines [] .plain rest
    else
      match scan position line with
      | (.plain, kept) => some (withoutBreak (read ++ kept)) :: joinLines [] .plain rest
      | (.comment, kept) => some (read ++ kept) :: joinLines [] .plain rest
      | (final, kept) => joinLines (read ++ kept) final rest

/-- The logical lines of a file, without those that are comments as a whole. -/
def logicalLines (text : String) : List (Option (List Char)) :=
  joinLines [] .plain (physicalLines text.toList)

end TopicGate.EnvFile
