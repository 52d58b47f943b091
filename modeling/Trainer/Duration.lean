import Trainer.Number
import Trainer.Binary64

/-!
# Durations

A duration is a number of nanoseconds.  `Duration.parse` reads the written form of a configuration
file (`150ms`, `30s`, `2m`, `1h`, or bare seconds); `Duration.render` is the form shown to the
learner (`850ms`, `1.2s`, `2m05s`).
-/

namespace Trainer

/-- A length of time in nanoseconds. -/
structure Duration where
  nanos : Nat
deriving DecidableEq, Repr, Inhabited

namespace Duration

def second : Nat := 1000000000

def ofMillis (n : Nat) : Duration := ⟨n * 1000000⟩

def ofSeconds (n : Nat) : Duration := ⟨n * second⟩

def zero : Duration := ⟨0⟩

def seconds (d : Duration) : Nat := d.nanos / second

/-- Nanoseconds beyond the whole seconds. -/
def subsecond (d : Duration) : Nat := d.nanos % second

def millis (d : Duration) : Nat := d.nanos / 1000000

def isZero (d : Duration) : Bool := d.nanos == 0

/-! ## Reading -/

inductive ParseError where
  /-- Nothing but blanks. -/
  | empty
  /-- The text does not start with a decimal digit. -/
  | noDigits (text : String)
  /-- The number does not fit in 64 bits. -/
  | tooLarge (text : String)
  /-- The unit is none of `s`, `ms`, `m`, `h`. -/
  | unknownUnit (unit text : String)
deriving DecidableEq, Repr

def ParseError.message : ParseError → String
  | .empty => "empty duration"
  | .noDigits text =>
      "invalid duration '" ++ text ++ "': cannot parse integer from empty string"
  | .tooLarge text =>
      "invalid duration '" ++ text ++ "': number too large to fit in target type"
  | .unknownUnit unit text => "unknown duration unit '" ++ unit ++ "' in '" ++ text ++ "'"

/-- The units a duration may be written in; no unit means seconds. -/
inductive TimeUnit where
  | millisecond
  | second
  | minute
  | hour
deriving DecidableEq, Repr

/-- Reads a unit; letters count only in lower case. -/
def TimeUnit.ofChars? : List Char → Option TimeUnit
  | [] => some .second
  | ['s'] => some .second
  | ['m', 's'] => some .millisecond
  | ['m'] => some .minute
  | ['h'] => some .hour
  | _ => none

/--
So many of a unit.  The number of seconds is not bounded here; what becomes of minutes and hours
that are more seconds than fit in 64 bits is left open.
-/
def TimeUnit.times (n : Nat) : TimeUnit → Duration
  | .millisecond => ofMillis n
  | .second => ofSeconds n
  | .minute => ofSeconds (n * 60)
  | .hour => ofSeconds (n * 3600)

/-- Reads a text without blanks at its ends: digits, blanks, a unit. -/
def parseTrimmed (cs : List Char) : Except ParseError Duration :=
  let digits := cs.takeWhile Char.isDigit
  let unit := Chars.trim (cs.dropWhile Char.isDigit)
  if cs.isEmpty then .error .empty
  else if digits.isEmpty then .error (.noDigits (String.ofList cs))
  -- The number is judged before the unit.
  else if twoTo 64 ≤ Chars.digitsValue digits then .error (.tooLarge (String.ofList cs))
  else
    match TimeUnit.ofChars? unit with
    | some u => .ok (u.times (Chars.digitsValue digits))
    | none => .error (.unknownUnit (String.ofList unit) (String.ofList cs))

def parse (s : String) : Except ParseError Duration :=
  parseTrimmed (Chars.trim s.toList)

/-! ## Showing -/

/-- The seconds as a double: whole seconds plus the rounded fraction. -/
def asSeconds (d : Duration) : Binary64 :=
  (Binary64.ofNat d.seconds).add (Binary64.ofRatio d.subsecond second)

/-- Milliseconds below a second, tenths of a second below a minute, then minutes and seconds. -/
def render (d : Duration) : String :=
  if d.millis < 1000 then toString d.millis ++ "ms"
  else if d.millis < 60000 then d.asSeconds.fixed 1 ++ "s"
  else toString (d.seconds / 60) ++ "m" ++ Text.padZero 2 (d.seconds % 60) ++ "s"

/-- Seconds with nine places. -/
def plain (d : Duration) : String :=
  toString d.seconds ++ "." ++ Text.padZero 9 d.subsecond

end Duration
end Trainer
