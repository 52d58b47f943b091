import Trainer.Number
import Trainer.Text

/-!
# Timestamps

A moment in UTC, kept as calendar date and clock time with nanoseconds.  `Timestamp.parse?` reads
a date and time with an offset (the internet date format, with blanks between the parts and short
numbers admitted); `Timestamp.render` writes the same moment in UTC with as few fraction digits as
0, 3, 6 or 9.

Because the offset of a written time is below a day, moving a time to UTC needs no day count: it
turns the clock and goes at most one day forward or back in the calendar.
-/

namespace Trainer

/-- A moment in UTC; `second` is 60 within a leap second. -/
structure Timestamp where
  year : Int
  month : Nat
  day : Nat
  hour : Nat
  minute : Nat
  second : Nat
  nano : Nat
deriving DecidableEq, Repr, Inhabited

namespace Timestamp

/-! ## The calendar -/

/-- Every fourth year is a leap year, except full centuries that 400 does not divide. -/
def isLeap (year : Int) : Bool :=
  year % 4 == 0 && (year % 100 != 0 || year % 400 == 0)

/-- The number of days in a month; 0 for what is not a month. -/
def monthLength (year : Int) (month : Nat) : Nat :=
  if month = 2 then (if isLeap year then 29 else 28)
  else if month = 4 ∨ month = 6 ∨ month = 9 ∨ month = 11 then 30
  else if 1 ≤ month ∧ month ≤ 12 then 31
  else 0

/-- The years a calendar date may have. -/
def yearInRange (year : Int) : Bool :=
  decide (-262143 ≤ year) && decide (year ≤ 262142)

def isValid (t : Timestamp) : Bool :=
  yearInRange t.year && decide (1 ≤ t.day) && decide (t.day ≤ monthLength t.year t.month) &&
    decide (t.hour ≤ 23) && decide (t.minute ≤ 59) && decide (t.second ≤ 60) &&
    decide (t.nano < 1000000000)

/-- The same time on the following day. -/
def nextDay (t : Timestamp) : Timestamp :=
  if t.day < monthLength t.year t.month then { t with day := t.day + 1 }
  else if t.month < 12 then { t with month := t.month + 1, day := 1 }
  else { t with year := t.year + 1, month := 1, day := 1 }

/-- The same time on the day before. -/
def previousDay (t : Timestamp) : Timestamp :=
  if 1 < t.day then { t with day := t.day - 1 }
  else if 1 < t.month then
    { t with month := t.month - 1, day := monthLength t.year (t.month - 1) }
  else { t with year := t.year - 1, month := 12, day := 31 }

/-- Moves a local time with an offset (in minutes east, below a day) to UTC. -/
def toUtc (offset : Int) (t : Timestamp) : Timestamp :=
  let minutes : Int := t.hour * 60 + t.minute - offset
  let clock := (minutes % 1440).toNat
  let turned := { t with hour := clock / 60, minute := clock % 60 }
  if minutes < 0 then turned.previousDay
  else if 1440 ≤ minutes then turned.nextDay
  else turned

/--
The date of a day counted from the first day of the year 1970.  Years are counted from March on, so
that the leap day is the last day of a year; 400 such years have 146097 days.
-/
def dateOfDay (days : Int) : Int × Nat × Nat :=
  let shifted := days + 719468
  let era := shifted.fdiv 146097
  let inEra := (shifted.fmod 146097).toNat
  let yearOfEra := (inEra - inEra / 1460 + inEra / 36524 - inEra / 146096) / 365
  let inYear := inEra - (365 * yearOfEra + yearOfEra / 4 - yearOfEra / 100)
  let fromMarch := (5 * inYear + 2) / 153
  let day := inYear - (153 * fromMarch + 2) / 5 + 1
  let month := if fromMarch < 10 then fromMarch + 3 else fromMarch - 9
  let year := era * 400 + yearOfEra
  (if month ≤ 2 then year + 1 else year, month, day)

/-- The moment so many seconds and nanoseconds after the start of the year 1970. -/
def ofSeconds (seconds : Int) (nano : Nat) : Timestamp :=
  let (year, month, day) := dateOfDay (seconds.fdiv 86400)
  let clock := (seconds.fmod 86400).toNat
  ⟨year, month, day, clock / 3600, clock / 60 % 60, clock % 60, nano⟩

/-! ## Reading -/

/-- Takes one up to `most` decimal digits. -/
def digits (most : Nat) (cs : List Char) : Option (Nat × List Char) :=
  let ds := (cs.takeWhile Char.isDigit).take most
  if ds.isEmpty then none else some (Chars.digitsValue ds, cs.drop ds.length)

/-- Takes a number after blanks. -/
def number (most : Nat) (cs : List Char) : Option (Nat × List Char) :=
  digits most (Chars.trimStart cs)

/-- Takes a year after blanks: four digits at most, or any number of digits after a sign. -/
def yearNumber (cs : List Char) : Option (Int × List Char) :=
  match Chars.trimStart cs with
  | '-' :: rest => (digits rest.length rest).map fun (n, rest) => (-(n : Int), rest)
  | '+' :: rest => (digits rest.length rest).map fun (n, rest) => ((n : Int), rest)
  | cs => (digits 4 cs).map fun (n, rest) => ((n : Int), rest)

/-- Takes a separator after blanks. -/
def separator (c : Char) (cs : List Char) : Option (List Char) :=
  match Chars.trimStart cs with
  | d :: rest => if d = c then some rest else none
  | [] => none

/-- Takes a fraction of a second if a point follows; digits beyond the ninth are dropped. -/
def fraction : List Char → Option (Nat × List Char)
  | '.' :: rest =>
      let all := rest.takeWhile Char.isDigit
      let ds := all.take 9
      if ds.isEmpty then none
      else some (Chars.digitsValue ds * tenTo (9 - ds.length), rest.drop all.length)
  | cs => some (0, cs)

def twoDigits : List Char → Option (Nat × List Char)
  | a :: b :: rest =>
      if a.isDigit && b.isDigit then some (Chars.digitsValue [a, b], rest) else none
  | _ => none

/-- Takes the hours and minutes of an offset. -/
def offsetMinutes (cs : List Char) : Option (Nat × List Char) := do
  let (hours, rest) ← twoDigits cs
  let (minutes, rest) ← twoDigits (rest.dropWhile fun c => c == ':' || Chars.isBlank c)
  if minutes < 60 && hours < 24 then some (hours * 60 + minutes, rest) else none

/-- Takes an offset from UTC: `Z`, `UTC`, or a sign with hours and minutes. -/
def utcOffset (cs : List Char) : Option (Int × List Char) :=
  match cs with
  | [] => none
  | c :: rest =>
      if Chars.lower (cs.take 3) = ['u', 't', 'c'] then some (0, cs.drop 3)
      else if c = 'Z' ∨ c = 'z' then some (0, rest)
      else if c = '+' then (offsetMinutes rest).map fun (n, rest) => ((n : Int), rest)
      else if c = '-' ∨ c = '\u2212' then
        (offsetMinutes rest).map fun (n, rest) => (-(n : Int), rest)
      else none

/-- Reads a date, a time of day and an offset, and gives the moment in UTC. -/
def parseChars (cs : List Char) : Option Timestamp := do
  let (year, cs) ← yearNumber cs
  let cs ← separator '-' cs
  let (month, cs) ← number 2 cs
  let cs ← separator '-' cs
  let (day, cs) ← number 2 cs
  let cs ← match cs with
    | c :: rest => if c = 'T' ∨ c = 't' ∨ c = ' ' then some rest else none
    | [] => none
  let (hour, cs) ← number 2 cs
  let cs ← separator ':' cs
  let (minute, cs) ← number 2 cs
  let cs ← separator ':' cs
  let (second, cs) ← number 2 cs
  let (nano, cs) ← fraction cs
  let (offset, cs) ← utcOffset (Chars.trimStart cs)
  let local_ : Timestamp := ⟨year, month, day, hour, minute, second, nano⟩
  let moment := local_.toUtc offset
  if Chars.allBlank cs && local_.isValid && yearInRange moment.year then some moment else none

def parse? (s : String) : Option Timestamp :=
  parseChars s.toList

/-! ## Writing -/

/-- A year in four digits, or with a sign when it has more or is negative. -/
def renderYear (year : Int) : String :=
  if 0 ≤ year ∧ year ≤ 9999 then Text.padZero 4 year.toNat
  else (if year < 0 then "-" else "+") ++ Text.padZero 4 year.natAbs

/-- Date and time down to the second. -/
def renderSeconds (t : Timestamp) : String :=
  renderYear t.year ++ "-" ++ Text.padZero 2 t.month ++ "-" ++ Text.padZero 2 t.day ++ "T" ++
    Text.padZero 2 t.hour ++ ":" ++ Text.padZero 2 t.minute ++ ":" ++ Text.padZero 2 t.second

/-- The fraction with as few digits as 0, 3, 6 or 9. -/
def renderFraction (nano : Nat) : String :=
  if nano = 0 then ""
  else if nano % 1000000 = 0 then "." ++ Text.padZero 3 (nano / 1000000)
  else if nano % 1000 = 0 then "." ++ Text.padZero 6 (nano / 1000)
  else "." ++ Text.padZero 9 nano

def render (t : Timestamp) : String :=
  t.renderSeconds ++ renderFraction t.nano ++ "Z"

/-- The form with nine fraction digits. -/
def renderFull (t : Timestamp) : String :=
  t.renderSeconds ++ "." ++ Text.padZero 9 t.nano ++ "Z"

end Timestamp
end Trainer
