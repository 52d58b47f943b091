import Trainer.Number
import Trainer.Toml.Value

/-!
# TOML numbers, truth values, dates and times

A scalar without quotes is a token of characters; `scalar?` says which value it denotes, if any.
-/

namespace Trainer
namespace Toml

/-! ## Digits -/

/-- Digits of a base in which single underscores may stand between digits. -/
def digitGroup (isDigit : Char → Bool) : List Char → Bool
  | [] => false
  | [c] => isDigit c
  | c :: '_' :: rest => isDigit c && digitGroup isDigit rest
  | c :: rest => isDigit c && digitGroup isDigit rest

def isBinary (c : Char) : Bool := c == '0' || c == '1'

def isOctal (c : Char) : Bool := '0' ≤ c && c ≤ '7'

def isHex (c : Char) : Bool :=
  c.isDigit || ('a' ≤ c && c ≤ 'f') || ('A' ≤ c && c ≤ 'F')

/-- The value of a digit of any base up to 16. -/
def digitValue (c : Char) : Nat :=
  let n := c.toNat
  if c.isDigit then n - 48 else if 'a' ≤ c then n - 87 else n - 55

/-- The value of digits in a base, underscores passed over. -/
def groupValue (base : Nat) (cs : List Char) : Nat :=
  (cs.filter (· != '_')).foldl (fun n c => base * n + digitValue c) 0

/-- A group of decimal digits without a leading zero, unless it is zero. -/
def decimalGroup (cs : List Char) : Bool :=
  digitGroup Char.isDigit cs && (cs.length == 1 || cs.head? != some '0')

/-- Splits off a sign; true for minus. -/
def signed : List Char → Bool × List Char
  | '-' :: rest => (true, rest)
  | '+' :: rest => (false, rest)
  | cs => (false, cs)

/-- An integer in decimal with an optional sign, or in base 16, 8 or 2. -/
def integer? (cs : List Char) : Option Int :=
  match cs with
  | '0' :: 'x' :: ds => if digitGroup isHex ds then some (groupValue 16 ds) else none
  | '0' :: 'o' :: ds => if digitGroup isOctal ds then some (groupValue 8 ds) else none
  | '0' :: 'b' :: ds => if digitGroup isBinary ds then some (groupValue 2 ds) else none
  | _ =>
      let (negative, ds) := signed cs
      if decimalGroup ds then
        some (if negative then -(groupValue 10 ds : Int) else (groupValue 10 ds : Int))
      else none

/-! ## Floating point -/

/-- Cuts at the first character that satisfies a test; nothing if there is none. -/
def cutAt (p : Char → Bool) (cs : List Char) : List Char × Option (List Char) :=
  match cs.dropWhile (fun c => !p c) with
  | [] => (cs, none)
  | _ :: rest => (cs.takeWhile (fun c => !p c), some rest)

/-- Whether `digits * 10 ^ exponent` rounds to a finite double. -/
def isFinite (digits : Nat) (exponent : Int) : Bool :=
  let limit := twoTo 1024 - twoTo 970
  if digits = 0 then true
  else if exponent < 0 then
    if digits < limit then true
    else decide (digits < limit * tenTo (min exponent.natAbs 100000))
  else if 400 < exponent then false
  else decide (digits * tenTo exponent.toNat < limit)

/-- A floating-point number: whether it is finite when rounded to a double. -/
def float? (cs : List Char) : Option Bool :=
  let (_, body) := signed cs
  if body = ['i', 'n', 'f'] ∨ body = ['n', 'a', 'n'] then some true
  else
    let (mantissa, exponent) := cutAt (fun c => c == 'e' || c == 'E') body
    let (whole, frac) := cutAt (· == '.') mantissa
    let exponentOk := match exponent with
      | none => frac.isSome
      | some e => digitGroup Char.isDigit (signed e).2
    let fracOk := match frac with
      | none => true
      | some f => digitGroup Char.isDigit f
    if decimalGroup whole && fracOk && exponentOk then
      let places := ((frac.getD []).filter (· != '_')).length
      let shift : Int := match exponent with
        | none => 0
        | some e =>
            let (negative, ds) := signed e
            if negative then -(groupValue 10 ds : Int) else (groupValue 10 ds : Int)
      some (isFinite (groupValue 10 (whole ++ frac.getD [])) (shift - places))
    else none

/-! ## Dates and times -/

/-- Reads exactly `count` decimal digits. -/
def takeDigits (count : Nat) (cs : List Char) : Option (Nat × List Char) :=
  let ds := cs.take count
  if ds.length = count ∧ ds.all Char.isDigit then some (groupValue 10 ds, cs.drop count) else none

/-- Reads one given character. -/
def takeChar (c : Char) : List Char → Option (List Char)
  | d :: rest => if d = c then some rest else none
  | [] => none

/-- The number of days in a month of a year after Christ. -/
def daysIn (year month : Nat) : Nat :=
  if month = 2 then
    (if year % 4 = 0 ∧ (year % 100 ≠ 0 ∨ year % 400 = 0) then 29 else 28)
  else if month = 4 ∨ month = 6 ∨ month = 9 ∨ month = 11 then 30
  else if 1 ≤ month ∧ month ≤ 12 then 31
  else 0

/-- Reads a date; gives what follows it. -/
def date? (cs : List Char) : Option (List Char) := do
  let (year, cs) ← takeDigits 4 cs
  let cs ← takeChar '-' cs
  let (month, cs) ← takeDigits 2 cs
  let cs ← takeChar '-' cs
  let (day, cs) ← takeDigits 2 cs
  if 1 ≤ day ∧ day ≤ daysIn year month then some cs else none

/-- Reads a time of day, whose seconds may be missing; gives what follows it. -/
def time? (cs : List Char) : Option (List Char) := do
  let (hour, cs) ← takeDigits 2 cs
  let cs ← takeChar ':' cs
  let (minute, cs) ← takeDigits 2 cs
  if 23 < hour ∨ 59 < minute then none
  match cs with
  | ':' :: cs =>
      let (second, cs) ← takeDigits 2 cs
      if 60 < second then none
      match cs with
      | '.' :: rest =>
          let ds := rest.takeWhile Char.isDigit
          if ds.isEmpty then none else some (rest.drop ds.length)
      | _ => some cs
  | _ => some cs

/-- Reads an offset from UTC, if one is there; gives what follows it. -/
def offset? (cs : List Char) : Option (List Char) :=
  match cs with
  | 'Z' :: rest => some rest
  | 'z' :: rest => some rest
  | c :: rest =>
      if c = '+' ∨ c = '-' then do
        let (hour, rest) ← takeDigits 2 rest
        let rest ← takeChar ':' rest
        let (minute, rest) ← takeDigits 2 rest
        if 23 < hour ∨ 59 < minute then none else some rest
      else some cs
  | [] => some cs

/-- Whether a token is a date, a time, or a date and a time with or without an offset. -/
def isDatetime (cs : List Char) : Bool :=
  match date? cs with
  | some [] => true
  | some (c :: rest) =>
      (c == 'T' || c == 't' || c == ' ') && ((time? rest).bind offset?) == some []
  | none => time? cs == some []

/-! ## Tokens -/

/-- The value of a token without quotes. -/
def scalar? (cs : List Char) : Option Value :=
  if cs = ['t', 'r', 'u', 'e'] then some (.boolean true)
  else if cs = ['f', 'a', 'l', 's', 'e'] then some (.boolean false)
  else
    match integer? cs with
    | some n => some (.integer n)
    | none =>
        match float? cs with
        | some finite => some (.float finite)
        | none => if isDatetime cs then some .datetime else none

/-- Whether a character ends a token. -/
def endsToken (c : Char) : Bool :=
  c == ' ' || c == '\t' || c == '\n' || c == '\r' || c == ',' || c == ']' || c == '}' || c == '#'

/-- The token at the front; a blank between a date and a time belongs to it. -/
def token (cs : List Char) : List Char × List Char :=
  let first := cs.takeWhile (fun c => !endsToken c)
  let rest := cs.drop first.length
  match date? first, rest with
  | some [], ' ' :: c :: more =>
      if c.isDigit then
        let second := (c :: more).takeWhile (fun c => !endsToken c)
        (first ++ ' ' :: second, (c :: more).drop second.length)
      else (first, rest)
  | _, _ => (first, rest)

end Toml
end Trainer
