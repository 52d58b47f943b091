import Trainer.Number
import Trainer.Binary64
import Trainer.Shell.Arithmetic
import Trainer.Shell.Utility.Basic

/-!
# Printing

`echo`, which writes its arguments, and `printf`, which writes them as a format says.  The format
is used again as long as arguments are left, and an argument that is missing counts as empty.
-/

namespace Trainer
namespace Shell
namespace Utility

open Sh

def echo : Procedure := fun args => do
  let (quiet, args) :=
    match args with
    | ['-', 'n'] :: rest => (true, rest)
    | args => (false, args)
  let text := (args.intersperse [' ']).flatten
  let (plain, stopped) := unescape true (text.length + 1) text
  if ← write 1 (plain ++ if quiet || stopped then [] else ['\n']) then return 0
  else
    report "echo: I/O error".toList
    return 1

/-! ## Floating point -/

/-- A number of floating point without its sign. -/
inductive Magnitude where
  | finite (x : Binary64)
  | infinite
  | undefined
deriving Repr

/-- Reads a number of floating point; gives its sign, true for minus, and what follows it. -/
def magnitudeOf (cs : Bytes) : Bool × Magnitude × Bytes :=
  let body := cs.dropWhile fun c => c == ' ' || ('\t' ≤ c && c ≤ '\r')
  let (negative, body) :=
    match body with
    | '-' :: rest => (true, rest)
    | '+' :: rest => (false, rest)
    | rest => (false, rest)
  let lower := body.map Char.toLower
  if "infinity".toList.isPrefixOf lower then (negative, .infinite, body.drop 8)
  else if "inf".toList.isPrefixOf lower then (negative, .infinite, body.drop 3)
  else if "nan".toList.isPrefixOf lower then (negative, .undefined, body.drop 3)
  else
    let whole := body.takeWhile Char.isDigit
    let rest := body.drop whole.length
    let (fraction, rest) :=
      match rest with
      | '.' :: more =>
          let ds := more.takeWhile Char.isDigit
          if whole.isEmpty && ds.isEmpty then ([], rest) else (ds, more.drop ds.length)
      | rest => ([], rest)
    if whole.isEmpty && fraction.isEmpty then (negative, .finite (Binary64.ofNat 0), cs)
    else
      let (exponent, rest) : Int × Bytes :=
        match rest with
        | e :: more =>
            if e = 'e' ∨ e = 'E' then
              let (minus, digits) :=
                match more with
                | '-' :: ds => (true, ds)
                | '+' :: ds => (false, ds)
                | ds => (false, ds)
              let ds := digits.takeWhile Char.isDigit
              if ds.isEmpty then (0, rest)
              else
                let n : Int := (min (Chars.digitsValue ds) 400 : Nat)
                (if minus then -n else n, digits.drop ds.length)
            else (0, rest)
        | [] => (0, [])
      let shift := exponent - fraction.length
      let digits := Chars.digitsValue (whole ++ fraction)
      (negative,
        .finite (Binary64.ofRatio (digits * tenTo shift.toNat) (tenTo (-shift).toNat)), rest)

/-- The exponent of the power of ten that a positive number reaches. -/
def decimalExponent (x : Binary64) : Int :=
  if x.den ≤ x.num then ((toString (x.num / x.den)).length : Int) - 1
  else
    match (List.range 400).find? fun k => x.den ≤ x.num * tenTo (k + 1) with
    | some k => -(k + 1 : Int)
    | none => 0

/-- A number rounded to `places + 1` significant digits, with the exponent of the first one. -/
def significant (places : Nat) (x : Binary64) : Nat × Int :=
  if x.num = 0 then (0, 0)
  else
    let e := decimalExponent x
    let shift := (places : Int) - e
    let n := roundDiv (x.num * tenTo shift.toNat) (x.den * tenTo (-shift).toNat)
    if n = tenTo (places + 1) then (tenTo places, e + 1) else (n, e)

/-- Drops the zeros at the end of a fraction, and the point if nothing is left of it. -/
def dropZeros (cs : Bytes) : Bytes :=
  if cs.contains '.' then
    let kept := cs.reverse.dropWhile (· == '0')
    (if kept.head? = some '.' then kept.drop 1 else kept).reverse
  else cs

/-- Significant digits with a point behind the first one. -/
def withPoint (digits : Bytes) : Bytes :=
  match digits with
  | [] => []
  | [d] => [d]
  | d :: ds => d :: '.' :: ds

/-- The text of an exponent, of two digits at least. -/
def exponentText (e : Int) : Bytes :=
  let digits := (toString e.natAbs).toList
  'e' :: (if e < 0 then '-' else '+') :: ((if digits.length < 2 then ['0'] else []) ++ digits)

/-- A number as the letter of a format says, in lower case and without its sign. -/
def magnitudeText (letter : Char) (precision : Option Nat) : Magnitude → Bytes
  | .infinite => "inf".toList
  | .undefined => "nan".toList
  | .finite x =>
      let places := precision.getD 6
      let scientific := fun (n : Nat) (places : Nat) =>
        List.replicate (places + 1 - (toString n).length) '0' ++ (toString n).toList
      if letter = 'f' then (x.fixed places).toList
      else if letter = 'e' then
        let (n, e) := significant places x
        withPoint (scientific n places) ++ exponentText e
      else
        let digits := max places 1
        let (n, e) := significant (digits - 1) x
        if e < -4 ∨ (digits : Int) ≤ e then
          dropZeros (withPoint (scientific n (digits - 1))) ++ exponentText e
        else dropZeros (x.fixed ((digits : Int) - 1 - e).toNat).toList

/-! ## Formats -/

/-- A field of a format: flags, width, precision, the letter, and the whole text of it. -/
structure Field where
  flags : Bytes
  width : Option Bytes
  precision : Option Bytes
  letter : Char
  source : Bytes
deriving Repr

inductive Piece where
  | text (cs : Bytes)
  | field (f : Field)
  /-- A field that the format breaks off. -/
  | unfinished
deriving Repr

/-- Cuts a format into pieces. -/
def piecesOf : Nat → Bytes → List Piece
  | 0, _ => []
  | _ + 1, [] => []
  | fuel + 1, '%' :: '%' :: rest => .text ['%'] :: piecesOf fuel rest
  | fuel + 1, '%' :: start =>
      let flags := start.takeWhile fun c =>
        c == '-' || c == '+' || c == ' ' || c == '0' || c == '#'
      let rest := start.drop flags.length
      let width := rest.takeWhile fun c => c.isDigit || c == '*'
      let rest := rest.drop width.length
      let (precision, rest) :=
        match rest with
        | '.' :: rest =>
            let p := rest.takeWhile fun c => c.isDigit || c == '*'
            (some p, rest.drop p.length)
        | rest => (none, rest)
      match rest with
      | c :: rest =>
          .field ⟨flags, if width.isEmpty then none else some width, precision, c,
            '%' :: start.take (start.length - rest.length)⟩ :: piecesOf fuel rest
      | [] => [.unfinished]
  | fuel + 1, '\\' :: rest =>
      let taken :=
        match rest with
        | d :: more =>
            if '0' ≤ d ∧ d ≤ '7' then
              1 + ((more.take 2).takeWhile fun e => '0' ≤ e && e ≤ '7').length
            else 1
        | [] => 0
      let (text, _) := unescape false (taken + 2) ('\\' :: rest.take taken)
      .text (if taken = 0 then ['\\'] else text) :: piecesOf fuel (rest.drop taken)
  | fuel + 1, c :: rest => .text [c] :: piecesOf fuel rest

/-- Fills a text up to a width; zeros go behind a sign or the mark of a base. -/
def padded (flags : Bytes) (width : Nat) (lead body : Bytes) (zeros : Bool) : Bytes :=
  let missing := width - (lead.length + body.length)
  if flags.contains '-' then lead ++ body ++ List.replicate missing ' '
  else if flags.contains '0' && zeros then lead ++ List.replicate missing '0' ++ body
  else List.replicate missing ' ' ++ lead ++ body

/-- What an argument was not fit for. -/
inductive Unfit where
  | notNumber
  | notWhole
  | tooLarge

def Unfit.message : Unfit → String
  | .notNumber => "expected numeric value"
  | .notWhole => "not completely converted"
  | .tooLarge => "Numerical result out of range"

/-- What is to be said of an argument of which `rest` was left over. -/
def unfit? (arg rest : Bytes) (outOfRange : Bool) : Option Unfit :=
  if !rest.isEmpty then some (if rest = arg then .notNumber else .notWhole)
  else if outOfRange then some .tooLarge
  else none

/-- The code of the character behind a quote, which stands for its own number. -/
def quotedCode? : Bytes → Option Nat
  | '\'' :: rest => some (rest.head?.map Char.toNat |>.getD 0)
  | '"' :: rest => some (rest.head?.map Char.toNat |>.getD 0)
  | _ => none

/-- The integer at the front of an argument, held within bounds. -/
def integerArgument (signed : Bool) (arg : Bytes) : Int × Option Unfit :=
  match quotedCode? arg with
  | some n => (n, none)
  | none =>
      let body := arg.dropWhile fun c => c == ' ' || ('\t' ≤ c && c ≤ '\r')
      let (negative, digits) :=
        match body with
        | '-' :: ds => (true, ds)
        | '+' :: ds => (false, ds)
        | ds => (false, ds)
      if !(digits.head?.any Char.isDigit) then (0, unfit? arg arg false)
      else
        let (n, rest) := Arithmetic.splitNumber digits
        let value : Int := if negative then -(n : Int) else n
        if signed then
          let bounded := max (-(twoTo 63 : Int)) (min value ((twoTo 63 : Int) - 1))
          (bounded, unfit? arg rest (bounded != value))
        else if twoTo 64 ≤ n then ((twoTo 64 : Int) - 1, unfit? arg rest true)
        else (value % (twoTo 64 : Int), unfit? arg rest false)

/-- The sign of a number as the flags show it. -/
def signOf (flags : Bytes) (negative : Bool) : Bytes :=
  if negative then ['-'] else if flags.contains '+' then ['+']
  else if flags.contains ' ' then [' '] else []

/-- The text of a field for an argument and what is to be said of that; nothing for a letter that
no field has. -/
def fieldText (f : Field) (width : Nat) (precision : Option Nat) (arg : Bytes) :
    Option (Bytes × Option Unfit) :=
  let digits := fun (s : Bytes) =>
    match precision with
    | some p => List.replicate (p - s.length) '0' ++ s
    | none => s
  let plain := fun s : Bytes => some (padded f.flags width [] s false, none)
  let signed := fun _ : Unit =>
    let (n, bad) := integerArgument true arg
    some (padded f.flags width (signOf f.flags (n < 0)) (digits (showNat n.natAbs))
      precision.isNone, bad)
  let unsigned := fun (base : Nat) (mark : Bytes) (change : Char → Char) =>
    let (n, bad) := integerArgument false arg
    let body := digits ((Nat.toDigits base n.toNat).map change)
    let lead := if f.flags.contains '#' && n ≠ 0 then mark else []
    some (padded f.flags width lead body precision.isNone, bad)
  let float := fun (letter : Char) (upper : Bool) =>
    let (negative, m, rest) := match quotedCode? arg with
      | some n => (false, Magnitude.finite (Binary64.ofNat n), [])
      | none => magnitudeOf arg
    let body := magnitudeText letter precision m
    let body := if upper then body.map Char.toUpper else body
    let finite := match m with
      | .finite _ => true
      | _ => false
    some (padded f.flags width (signOf f.flags negative) body finite, unfit? arg rest false)
  match f.letter with
  | 's' => plain (match precision with
      | some p => arg.take p
      | none => arg)
  | 'b' => plain (match precision with
      | some p => (unescape true (arg.length + 1) arg).1.take p
      | none => (unescape true (arg.length + 1) arg).1)
  | 'c' => plain (if arg.isEmpty then ['\x00'] else arg.take 1)
  | 'd' => signed ()
  | 'i' => signed ()
  | 'u' => unsigned 10 [] id
  | 'o' => unsigned 8 ['0'] id
  | 'x' => unsigned 16 ['0', 'x'] id
  | 'X' => unsigned 16 ['0', 'X'] Char.toUpper
  | 'f' => float 'f' false
  | 'F' => float 'f' true
  | 'e' => float 'e' false
  | 'E' => float 'e' true
  | 'g' => float 'g' false
  | 'G' => float 'g' true
  | _ => none

/-- How a pass through a format ended. -/
structure Pass where
  args : List Bytes
  status : Nat
  /-- Whether a field has used an argument. -/
  used : Bool
  /-- Whether the output has come to its end. -/
  ended : Bool

/-- Takes an argument for a width or a precision if a star asks for one. -/
def takeNumber (spec : Option Bytes) (args : List Bytes) : Option Int × List Bytes :=
  match spec with
  | some ['*'] => (some (integerArgument true (args.headD [])).1, args.drop 1)
  | some w => (some (Chars.digitsValue w : Nat), args)
  | none => (none, args)

/-- Goes through a format once. -/
def printOnce : List Piece → Pass → Sh Pass
  | [], p => return p
  | .text cs :: rest, p => do
      put cs
      printOnce rest p
  | .unfinished :: _, p => do
      report "missing format character".toList
      return { p with status := 2, ended := true }
  | .field f :: rest, p => do
      let (width, args) := takeNumber f.width p.args
      let (precision, args) := takeNumber f.precision args
      let width := width.getD 0
      let flags := if width < 0 then '-' :: f.flags else f.flags
      let precision := (precision.filter fun n => 0 ≤ n).map Int.toNat
      let arg := args.headD []
      match fieldText { f with flags := flags } width.natAbs precision arg with
      | none => do
          report (f.source ++ ": invalid directive".toList)
          return { p with status := 2, ended := true }
      | some (text, bad) => do
          if let some reason := bad then
            report (arg ++ (": " ++ reason.message).toList)
          put text
          let p := ⟨args.drop 1, if bad.isSome then 1 else p.status, true, p.ended⟩
          if f.letter = 'b' && (unescape true (arg.length + 1) arg).2 then
            return { p with ended := true }
          else printOnce rest p

/-- Goes through a format until no arguments are left. -/
def printAll (pieces : List Piece) : Nat → List Bytes → Nat → Sh Nat
  | 0, _, status => return status
  | fuel + 1, args, status => do
      let p ← printOnce pieces ⟨args, status, false, false⟩
      if p.ended || p.args.isEmpty || !p.used then return p.status
      else printAll pieces fuel p.args p.status

def printf : Procedure := fun args => do
  match args with
  | ('-' :: c :: cs) :: rest =>
      if c = '-' && cs.isEmpty then
        match rest with
        | [] => noFormat
        | format :: args => run format args
      else
        report ("Illegal option -".toList ++ [c])
        return 2
  | [] => noFormat
  | format :: args => run format args
where
  /-- The answer to a missing format. -/
  noFormat : Sh Nat := do
    report "usage: printf format [arg ...]".toList
    return 2
  /-- Writes arguments in a format. -/
  run (format : Bytes) (args : List Bytes) : Sh Nat :=
    printAll (piecesOf (format.length + 1) format) (args.length + 1) args 0

end Utility
end Shell
end Trainer
