import Trainer.Shell.Utility.TextTools

/-!
# Laying out text

Utilities that show text in another arrangement: lines backwards, numbered, side by side or cut to
a width, and bytes as numbers.
-/

namespace Trainer
namespace Shell
namespace Utility

open Sh

def tac : Procedure := fun args => do
  let (inputs, status) ← readFiles "tac: failed to open " 1 args
  for (_, content) in inputs do
    let (ls, ended) := linesOf content
    let text := ls.reverse.flatMap fun l => l ++ ['\n']
    put (if ended || ls.isEmpty then text
      else (ls.getLastD []) ++ unlines (ls.dropLast.reverse))
  return status

def nl : Procedure := fun args => do
  let o := Options.parse ['b', 'w', 's'] args
  let (inputs, status) ← readFiles "nl: " 1 o.rest
  let every := o.value? 'b' == some ['a']
  let width := ((o.value? 'w').bind number?).getD 6
  let separator := (o.value? 's').getD ['\t']
  let mut n := 1
  for l in inputs.flatMap fun x => (linesOf x.2).1 do
    if l.isEmpty && !every then put (List.replicate (width + separator.length) ' ' ++ ['\n'])
    else
      let s := showNat n
      put (List.replicate (width - s.length) ' ' ++ s ++ separator ++ l ++ ['\n'])
      n := n + 1
  return status

/-- Joins lists line by line, as long as one of them has lines left. -/
def pasteLines (delimiters : Bytes) : Nat → List (List Bytes) → List Bytes
  | 0, _ => []
  | fuel + 1, columns =>
      if columns.all List.isEmpty then []
      else
        let cells := columns.map fun c => c.headD []
        let joined := (cells.zip (List.range cells.length)).flatMap fun x =>
          (if x.2 = 0 then [] else [delimiters.getD ((x.2 - 1) % delimiters.length) '\t']) ++ x.1
        joined :: pasteLines delimiters fuel (columns.map fun c => c.drop 1)

/-- Puts the lines of files side by side, or the lines of each file behind one another. -/
def paste : Procedure := fun args => do
  let o := Options.parse ['d'] args
  let files := if o.rest.isEmpty then ["-".toList] else o.rest
  let (inputs, status) ← readFiles "paste: " 1 files
  let delimiters := ((o.value? 'd').map fun d => (unescape false (d.length + 1) d).1).getD ['\t']
  let delimiters := if delimiters.isEmpty then ['\t'] else delimiters
  let columns := inputs.map fun x => (linesOf x.2).1
  if o.has 's' then
    for ls in columns do
      put ((pasteLines delimiters 1 (ls.map fun l => [l])).flatten ++ ['\n'])
  else
    put (unlines (pasteLines delimiters ((columns.map List.length).foldl max 0 + 1) columns))
  return status

def piecesOfLength (width : Nat) : Nat → Bytes → List Bytes
  | 0, l => [l]
  | fuel + 1, l =>
      if l.length ≤ width then [l] else l.take width :: piecesOfLength width fuel (l.drop width)

def fold : Procedure := fun args => do
  let o := Options.parse ['w'] args
  let (inputs, status) ← readFiles "fold: " 1 o.rest
  let width := max 1 (((o.value? 'w').bind number?).getD 80)
  for (_, content) in inputs do
    let (ls, ended) := linesOf content
    let text := unlines (ls.flatMap fun l => piecesOfLength width l.length l)
    put (if ended then text else text.dropLast)
  return status

/-- A byte as a character or an escape, for a dump. -/
def dumpedCharacter (c : Char) : Bytes :=
  match c with
  | '\x00' => "\\0".toList
  | '\x07' => "\\a".toList
  | '\x08' => "\\b".toList
  | '\t' => "\\t".toList
  | '\n' => "\\n".toList
  | '\x0b' => "\\v".toList
  | '\x0c' => "\\f".toList
  | '\r' => "\\r".toList
  | c =>
      if ' ' ≤ c ∧ c ≤ '~' then [c]
      else
        let digits := Nat.toDigits 8 c.toNat
        List.replicate (3 - digits.length) '0' ++ digits

/-- A number in a base, filled with zeros up to a width. -/
def zeroFilled (base width n : Nat) : Bytes :=
  let digits := Nat.toDigits base n
  List.replicate (width - digits.length) '0' ++ digits

/-- Shows bytes as numbers or characters, sixteen to a line. -/
def od : Procedure := fun args => do
  let o := Options.parse ['A', 't', 'N', 'w'] args
  let (inputs, status) ← readFiles "od: " 1 o.rest
  let content := inputs.flatMap Prod.snd
  let content := match (o.value? 'N').bind number? with
    | some n => content.take n
    | none => content
  let kind := (o.value? 't').getD (if o.has 'c' then ['c'] else if o.has 'b' then ['o', '1']
    else ['o', '2'])
  let cell := fun (width : Nat) (text : Bytes) => List.replicate (width - text.length) ' ' ++ text
  let shown := fun (row : Bytes) =>
    match kind with
    | 'c' :: _ => row.flatMap fun c => cell 4 (dumpedCharacter c)
    | 'x' :: '1' :: _ => row.flatMap fun c => ' ' :: zeroFilled 16 2 c.toNat
    | 'o' :: '1' :: _ => row.flatMap fun c => ' ' :: zeroFilled 8 3 c.toNat
    | 'd' :: '1' :: _ => row.flatMap fun c =>
        cell 5 (showInt (if c.toNat < 128 then (c.toNat : Int) else (c.toNat : Int) - 256))
    | 'u' :: '1' :: _ => row.flatMap fun c => cell 4 (showNat c.toNat)
    | _ =>
        let pairs := (List.range ((row.length + 1) / 2)).map fun i =>
          (row.getD (2 * i) '\x00').toNat + 256 * (row.getD (2 * i + 1) '\x00').toNat
        pairs.flatMap fun n =>
          if kind.head? = some 'x' then ' ' :: zeroFilled 16 4 n else ' ' :: zeroFilled 8 6 n
  let address := fun n : Nat =>
    match o.value? 'A' with
    | some ['n'] => []
    | some ['d'] => zeroFilled 10 7 n
    | some ['x'] => zeroFilled 16 6 n
    | _ => zeroFilled 8 7 n
  let rows := if content.isEmpty then [] else piecesOfLength 16 content.length content
  for (row, i) in rows.zip (List.range rows.length) do
    put (address (16 * i) ++ shown row ++ ['\n'])
  let final := address content.length
  if !final.isEmpty then put (final ++ ['\n'])
  return status

end Utility
end Shell
end Trainer
