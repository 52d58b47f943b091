import Trainer.Shell.Process

/-!
# Utilities: input and options

What the utilities share: reading files and standard input, cutting text into lines, and taking
options off a list of arguments.
-/

namespace Trainer
namespace Shell
namespace Utility

open Sh

/-- A utility: its arguments to its exit status. -/
abbrev Procedure := List Bytes → Sh Nat

/-- Reads what a path leads to, some of the paths being devices. -/
def readPath (p : Bytes) : Sh (Except IoError (Bytes × Bool)) := do
  match String.ofList p with
  | "/dev/null" => return .ok ([], false)
  | "/dev/zero" => return .ok (List.replicate 65536 '\x00', true)
  | "/dev/stdin" => return .ok (← readAll 0)
  | "-" => return .ok (← readAll 0)
  | _ =>
      match (← tree).readBytes (pathOf p) with
      | .ok b => return .ok (unpackBytes b, false)
      | .error e => return .error e

def complainOf (lead : String) (file : Bytes) (e : IoError) : Sh Unit :=
  complain (lead.toList ++ file ++ ": ".toList ++ (systemText e).toList)

def complainUsage (utility : String) (text : Bytes) : Sh Unit := do
  complain (utility.toList ++ ": ".toList ++ text)
  complainText ("Try '" ++ utility ++ " --help' for more information.")

/-- Reads files one after the other, standard input if there are none; `status` is for failures,
which are complained of behind `lead`. -/
def readFiles (lead : String) (status : Nat) : List Bytes → Sh (List (Bytes × Bytes) × Nat)
  | [] => do
      let (content, endless) ← readAll 0
      if endless then hang
      return ([("-".toList, content)], 0)
  | files => go files
where
  /-- Reads the files of a list that is not empty. -/
  go : List Bytes → Sh (List (Bytes × Bytes) × Nat)
    | [] => return ([], 0)
    | f :: rest => do
        match ← readPath f with
        | .ok (content, endless) => do
            if endless then hang
            let (more, code) ← go rest
            return ((f, content) :: more, code)
        | .error e => do
            complainOf lead f e
            let (more, _) ← go rest
            return (more, status)

/-- The lines of a text without their ends; true when the last one has an end as well. -/
def linesOf (cs : Bytes) : List Bytes × Bool :=
  let parts := Chars.splitAt '\n' cs
  match parts.reverse with
  | [] :: before => (before.reverse, true)
  | _ => (parts, false)

/-- Lines with an end after each. -/
def unlines (ls : List Bytes) : Bytes :=
  ls.flatMap fun l => l ++ ['\n']

/-- Options taken off a list of arguments: letters, letters with values, and what is left. -/
structure Options where
  flags : List Char
  values : List (Char × Bytes)
  rest : List Bytes
  /-- A letter that is no option. -/
  unknown : Option Char

namespace Options

/-- Takes the letters of one argument. -/
def letters (withValue : List Char) (o : Options) : Bytes → List Bytes → Options × List Bytes
  | [], more => (o, more)
  | c :: cs, more =>
      if withValue.contains c then
        if cs.isEmpty then
          match more with
          | v :: more => ({ o with values := (c, v) :: o.values }, more)
          | [] => ({ o with unknown := some c }, [])
        else ({ o with values := (c, cs) :: o.values }, more)
      else letters withValue { o with flags := c :: o.flags } cs more

/-- Takes options off the front of arguments; with `anywhere`, from between operands as well. -/
def takeFrom (withValue : List Char) (anywhere : Bool) : Nat → Options → List Bytes → Options
  | 0, o, args => { o with rest := o.rest ++ args }
  | _ + 1, o, [] => o
  | fuel + 1, o, a :: more =>
      match a with
      | ['-', '-'] => { o with rest := o.rest ++ more }
      | '-' :: c :: cs =>
          let (o, more) := letters withValue o (c :: cs) more
          takeFrom withValue anywhere fuel o more
      | _ =>
          if anywhere then takeFrom withValue anywhere fuel { o with rest := o.rest ++ [a] } more
          else { o with rest := o.rest ++ a :: more }

def parse (withValue : List Char) (args : List Bytes) : Options :=
  takeFrom withValue true (args.length + 1) ⟨[], [], [], none⟩ args

def has (o : Options) (c : Char) : Bool := o.flags.contains c

def value? (o : Options) (c : Char) : Option Bytes := o.values.lookup c

end Options

def number? (cs : Bytes) : Option Nat :=
  if cs.isEmpty || !cs.all Char.isDigit then none else some (Chars.digitsValue cs)

/-- An integer in decimal, blanks around it admitted. -/
def integer? (cs : Bytes) : Option Int :=
  match Chars.trim cs with
  | '-' :: ds => (number? ds).map fun n => -(n : Int)
  | '+' :: ds => (number? ds).map fun n => (n : Int)
  | ds => (number? ds).map fun n => (n : Int)

def showNat (n : Nat) : Bytes := (toString n).toList

def showInt (n : Int) : Bytes := (toString n).toList

/-- Escapes of `printf` formats and of `echo`; true when the output stops there. -/
def unescape (octalZero : Bool) : Nat → Bytes → Bytes × Bool
  | 0, cs => (cs, false)
  | _ + 1, [] => ([], false)
  | fuel + 1, '\\' :: c :: rest =>
      let go := fun (d : Char) (rest : Bytes) =>
        let (more, stop) := unescape octalZero fuel rest
        (d :: more, stop)
      let octal := fun (most : Nat) (rest : Bytes) =>
        let ds := (rest.take most).takeWhile fun d => '0' ≤ d && d ≤ '7'
        let n := ds.foldl (fun n d => 8 * n + (d.toNat - 48)) 0
        go (Char.ofNat (n % 256)) (rest.drop ds.length)
      match c with
      | 'n' => go '\n' rest
      | 't' => go '\t' rest
      | 'r' => go '\r' rest
      | 'a' => go '\x07' rest
      | 'b' => go '\x08' rest
      | 'f' => go '\x0c' rest
      | 'v' => go '\x0b' rest
      | 'e' => go '\x1b' rest
      | '\\' => go '\\' rest
      | 'c' => ([], true)
      | '0' => if octalZero then octal 3 rest else octal 3 ('0' :: rest)
      | d =>
          if '1' ≤ d ∧ d ≤ '7' then octal 3 (d :: rest)
          else
            let (more, stop) := unescape octalZero fuel (d :: rest)
            ('\\' :: more, stop)
  | fuel + 1, c :: rest =>
      let (more, stop) := unescape octalZero fuel rest
      (c :: more, stop)

end Utility
end Shell
end Trainer
