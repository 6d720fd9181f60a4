import TopicGate.Text.Blank
import TopicGate.Text.Digits

/-!
# Timestamps

Moments in universal time, to the nanosecond.  They are written in the form of RFC 3339 and read
back more liberally: blanks may stand around the parts, fields may have fewer digits, and a time in
another zone is converted.

## Sections
1. The calendar
2. Writing
3. Reading numbers
4. Reading dates, times and offsets
5. Reading timestamps
-/

namespace TopicGate

/-! ## §1 The calendar -/

structure Day where
  year : Int
  month : Nat
  day : Nat
deriving Repr, DecidableEq

namespace Day

def isLeap (year : Int) : Bool := year % 4 == 0 && (year % 100 != 0 || year % 400 == 0)

def daysOf (year : Int) (month : Nat) : Nat :=
  if month = 2 then (if isLeap year then 29 else 28)
  else if month ∈ [4, 6, 9, 11] then 30
  else 31

/-- The years that days have. -/
def hasYear (year : Int) : Bool := -262143 ≤ year && year ≤ 262142

def isValid (d : Day) : Bool :=
  hasYear d.year && 1 ≤ d.month && d.month ≤ 12 && 1 ≤ d.day && d.day ≤ daysOf d.year d.month

def previous (d : Day) : Day :=
  if 1 < d.day then { d with day := d.day - 1 }
  else if 1 < d.month then ⟨d.year, d.month - 1, daysOf d.year (d.month - 1)⟩
  else ⟨d.year - 1, 12, 31⟩

def next (d : Day) : Day :=
  if d.day < daysOf d.year d.month then { d with day := d.day + 1 }
  else if d.month < 12 then ⟨d.year, d.month + 1, 1⟩
  else ⟨d.year + 1, 1, 1⟩

end Day

/-- A moment in universal time.  Second 60 is a leap second. -/
structure Timestamp where
  day : Day
  hour : Nat
  minute : Nat
  second : Nat
  nanosecond : Nat
deriving Repr, DecidableEq

namespace Timestamp

/-! ## §2 Writing -/

/-- A number with at least `width` digits. -/
def padded (width n : Nat) : List Char :=
  let digits := Nat.toDigits 10 n
  List.replicate (width - digits.length) '0' ++ digits

/-- A year: four digits, and a sign in front of those before 0 and behind 9999. -/
def yearText (year : Int) : List Char :=
  if 0 ≤ year ∧ year ≤ 9999 then padded 4 year.toNat
  else (if year < 0 then '-' else '+') :: padded 4 year.natAbs

/-- A fraction of a second in thousandths, millionths or billionths, the first that is exact. -/
def fractionText (nanosecond : Nat) : List Char :=
  if nanosecond = 0 then []
  else if nanosecond % 1000000 = 0 then '.' :: padded 3 (nanosecond / 1000000)
  else if nanosecond % 1000 = 0 then '.' :: padded 6 (nanosecond / 1000)
  else '.' :: padded 9 nanosecond

def text (t : Timestamp) : String :=
  String.ofList
    (yearText t.day.year ++ '-' :: padded 2 t.day.month ++ '-' :: padded 2 t.day.day ++
      'T' :: padded 2 t.hour ++ ':' :: padded 2 t.minute ++ ':' :: padded 2 t.second ++
      fractionText t.nanosecond ++ ['Z'])

/-! ## §3 Reading numbers -/

def skipBlanks (cs : List Char) : List Char := cs.dropWhile Text.isBlank

/-- A number of one to `most` digits, and what follows it. -/
def number? (most : Nat) (cs : List Char) : Option (Nat × List Char) :=
  let digits := (cs.take most).takeWhile Char.isDigit
  if digits.isEmpty then none else some (Text.natOfDigits 10 digits, cs.drop digits.length)

/-- A number of one or two digits within bounds, blanks before it skipped. -/
def field? (low high : Nat) (cs : List Char) : Option (Nat × List Char) := do
  let (n, rest) ← number? 2 (skipBlanks cs)
  if low ≤ n ∧ n ≤ high then some (n, rest) else none

/-- What follows a mark, blanks before it skipped. -/
def afterMark? (mark : Char) (cs : List Char) : Option (List Char) :=
  match skipBlanks cs with
  | [] => none
  | c :: rest => if c = mark then some rest else none

/-! ## §4 Reading dates, times and offsets -/

/-- A year of up to four digits, or of any number of digits behind a sign. -/
def year? (cs : List Char) : Option (Int × List Char) :=
  match skipBlanks cs with
  | '-' :: rest => (number? rest.length rest).map fun (n, rest) => (-(n : Int), rest)
  | '+' :: rest => (number? rest.length rest).map fun (n, rest) => ((n : Int), rest)
  | rest => (number? 4 rest).map fun (n, rest) => ((n : Int), rest)

def day? (cs : List Char) : Option (Day × List Char) := do
  let (year, rest) ← year? cs
  let rest ← afterMark? '-' rest
  let (month, rest) ← field? 1 12 rest
  let rest ← afterMark? '-' rest
  let (day, rest) ← field? 1 31 rest
  let d : Day := ⟨year, month, day⟩
  if d.isValid then some (d, rest) else none

/-- A fraction of a second: digits behind the ninth are dropped. -/
def fraction? : List Char → Option (Nat × List Char)
  | '.' :: rest => do
    let digits := (rest.take 9).takeWhile Char.isDigit
    if digits.isEmpty then none
    else
      let scaled := Text.natOfDigits 10 digits * Nat.pow 10 (9 - digits.length)
      some (scaled, (rest.drop digits.length).dropWhile Char.isDigit)
  | cs => some (0, cs)

def twoDigits? : List Char → Option (Nat × List Char)
  | a :: b :: rest =>
    if a.isDigit && b.isDigit then some (Text.natOfDigits 10 [a, b], rest) else none
  | _ => none

/-- An offset from universal time in minutes, less than a day in size. -/
def offset? (cs : List Char) : Option (Int × List Char) :=
  match cs with
  | [] => none
  | sign :: rest =>
    if (cs.take 3).map Char.toLower = ['u', 't', 'c'] then some (0, cs.drop 3)
    else if sign = 'Z' ∨ sign = 'z' then some (0, rest)
    else do
      let negative ←
        if sign = '+' then some false
        else if sign = '-' ∨ sign = '\u2212' then some true
        else none
      let (hours, rest) ← twoDigits? rest
      let (minutes, rest) ← twoDigits? (rest.dropWhile fun c => c == ':' || Text.isBlank c)
      let size : Int := hours * 60 + minutes
      if hours < 24 ∧ minutes < 60 then some (if negative then -size else size, rest) else none

/-! ## §5 Reading timestamps -/

/-- The moment of a local time with an offset of less than a day. -/
def ofLocal (t : Timestamp) (offset : Int) : Timestamp :=
  let minutes : Int := t.hour * 60 + t.minute - offset
  let day :=
    if minutes < 0 then t.day.previous else if 1440 ≤ minutes then t.day.next else t.day
  let minutes := (minutes % 1440).toNat
  { t with day, hour := minutes / 60, minute := minutes % 60 }

def read? (written : String) : Option Timestamp := do
  let (day, rest) ← day? written.toList
  let rest ← match rest with
    | [] => none
    | c :: rest => if c = 'T' ∨ c = 't' ∨ c = ' ' then some rest else none
  let (hour, rest) ← field? 0 23 rest
  let rest ← afterMark? ':' rest
  let (minute, rest) ← field? 0 59 rest
  let rest ← afterMark? ':' rest
  let (second, rest) ← field? 0 60 rest
  let (nanosecond, rest) ← fraction? rest
  let (offset, rest) ← offset? (skipBlanks rest)
  let t := ofLocal { day, hour, minute, second, nanosecond } offset
  if (skipBlanks rest).isEmpty && Day.hasYear t.day.year then some t else none

end Timestamp

end TopicGate
