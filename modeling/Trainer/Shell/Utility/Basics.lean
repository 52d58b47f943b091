import Trainer.Number
import Trainer.Shell.Utility.Condition
import Trainer.Shell.Utility.FileTools
import Trainer.Shell.Utility.Layout
import Trainer.Shell.Utility.Printing
import Trainer.Shell.Utility.StreamEditor

/-!
# The utilities

`expr`, `sleep` and `yes`, and the tables of all utilities by their names.
-/

namespace Trainer
namespace Shell
namespace Utility

open Sh

/-! ## Values -/

/-- The value of an expression of `expr`, read from weak to strong operators. -/
def exprValue : Nat → Nat → List Bytes → Option (Bytes × List Bytes)
  | 0, _, _ => none
  | fuel + 1, level, args =>
      if level = 6 then
        match args with
        | [] => none
        | ['('] :: rest =>
            match exprValue fuel 0 rest with
            | some (v, [')'] :: rest) => some (v, rest)
            | _ => none
        | a :: rest =>
            match String.ofList a, rest with
            | "length", b :: rest => some (showNat b.length, rest)
            | "substr", s :: i :: n :: rest =>
                let i := (number? i).getD 0
                some (if i = 0 then [] else (s.drop (i - 1)).take ((number? n).getD 0), rest)
            | _, rest => some (a, rest)
      else
        match exprValue fuel (level + 1) args with
        | none => none
        | some (a, rest) => more fuel level a rest
where
  /-- Goes on behind an operand. -/
  more : Nat → Nat → Bytes → List Bytes → Option (Bytes × List Bytes)
    | 0, _, _, _ => none
    | fuel + 1, level, a, args =>
        match args with
        | op :: rest =>
            let ops := [["|"], ["&"], ["<", "<=", "=", "==", "!=", ">=", ">"], ["+", "-"],
              ["*", "/", "%"], [":"]]
            if (ops.getD level []).contains (String.ofList op) then
              match exprOperand fuel (level + 1) rest with
              | none => none
              | some (b, rest) =>
                  match combine (String.ofList op) a b with
                  | some v => more fuel level v rest
                  | none => none
            else some (a, args)
        | [] => some (a, [])
  /-- An operand on the right: a single value or a nested expression. -/
  exprOperand : Nat → Nat → List Bytes → Option (Bytes × List Bytes)
    | 0, _, _ => none
    | fuel + 1, level, args =>
        if level = 6 then
          match args with
          | a :: rest => some (a, rest)
          | [] => none
        else
          match exprOperand fuel (level + 1) args with
          | some (a, rest) => more fuel level a rest
          | none => none
  /-- Whether a value counts as false. -/
  isNull (a : Bytes) : Bool := a.isEmpty || integer? a == some 0
  /-- Applies an operator. -/
  combine (op : String) (a b : Bytes) : Option Bytes :=
    let truth := fun v : Bool => some (if v then ['1'] else ['0'])
    let compare := fun (f : Int → Int → Bool) (g : Bool) =>
      match integer? a, integer? b with
      | some m, some n => truth (f m n)
      | _, _ => truth g
    let compute := fun f : Int → Int → Option Int =>
      match integer? a, integer? b with
      | some m, some n => (f m n).map showInt
      | _, _ => none
    match op with
    | "|" => some (if !isNull a then a else if isNull b then ['0'] else b)
    | "&" => some (if isNull a || isNull b then ['0'] else a)
    | "<" => compare (fun m n => decide (m < n)) (bytesLe a b && a != b)
    | "<=" => compare (fun m n => decide (m ≤ n)) (bytesLe a b)
    | "=" => compare (fun m n => m == n) (a == b)
    | "==" => compare (fun m n => m == n) (a == b)
    | "!=" => compare (fun m n => m != n) (a != b)
    | ">=" => compare (fun m n => decide (n ≤ m)) (bytesLe b a)
    | ">" => compare (fun m n => decide (n < m)) (bytesLe b a && a != b)
    | "+" => compute fun m n => some (m + n)
    | "-" => compute fun m n => some (m - n)
    | "*" => compute fun m n => some (m * n)
    | "/" => compute fun m n => if n = 0 then none else some (m.tdiv n)
    | "%" => compute fun m n => if n = 0 then none else some (m.tmod n)
    | ":" =>
        match Search.parse? false b with
        | none => none
        | some r =>
            match Search.runAt false a (200 * (a.length + 20)) r ⟨[], a, 0⟩ []
                fun y gs => some (y.index, gs) with
            | some (stop, gs) =>
                match gs.lookup 1 with
                | some (i, j) => some ((a.drop i).take (j - i))
                | none => some (showNat stop)
            | none => some ['0']
    | _ => none

def expr : Procedure := fun args => do
  if args.isEmpty then
    complainUsage "expr" "missing operand".toList
    return 2
  match exprValue (40 * args.length + 40) 0 args with
  | some (v, []) =>
      put (v ++ ['\n'])
      return if v.isEmpty || integer? v == some 0 then 1 else 0
  | some (_, a :: _) =>
      complain ("expr: syntax error: unexpected argument ".toList ++ inQuotes a)
      return 2
  | none =>
      match args with
      | [a, op, b] =>
          if op = ['/'] || op = ['%'] then
            if integer? b = some 0 && (integer? a).isSome then
              complainText "expr: division by zero"
              return 2
          complain (if (integer? a).isSome && (integer? b).isSome then
            "expr: syntax error".toList else "expr: non-integer argument".toList)
          return 2
      | args =>
          complain ("expr: syntax error: missing argument after ".toList ++
            inQuotes (args.getLastD []))
          return 2

/-- A length of time with a unit, in milliseconds. -/
def sleepTime (a : Bytes) : Option Nat :=
  let digits := a.takeWhile Char.isDigit
  let rest := a.drop digits.length
  let (fraction, rest) :=
    match rest with
    | '.' :: rest => (rest.takeWhile Char.isDigit, rest.dropWhile Char.isDigit)
    | rest => ([], rest)
  let millis := Chars.digitsValue digits * 1000 +
    Chars.digitsValue ((fraction ++ ['0', '0', '0']).take 3)
  if digits.isEmpty && fraction.isEmpty then none
  else
    match rest with
    | [] => some millis
    | ['s'] => some millis
    | ['m'] => some (millis * 60)
    | ['h'] => some (millis * 3600)
    | ['d'] => some (millis * 86400)
    | _ => if a = "infinity".toList then some (twoTo 63) else none

def sleep : Procedure := fun args => do
  match args with
  | [] =>
      complainUsage "sleep" "missing operand".toList
      return 1
  | args =>
      match args.find? fun a => (sleepTime a).isNone with
      | some ('-' :: c :: _) =>
          complainUsage "sleep" ("invalid option -- ".toList ++ inQuotes [c])
          return 1
      | some a =>
          complainUsage "sleep" ("invalid time interval ".toList ++ inQuotes a)
          return 1
      | none =>
          Sh.sleep (sumOf (args.map fun a => (sleepTime a).getD 0))
          return 0

/-- Writes a line without end. -/
def yes : Procedure := fun args => do
  let line := ((if args.isEmpty then [['y']] else args).intersperse [' ']).flatten ++ ['\n']
  put (List.replicate 4096 line).flatten
  hang

def table : List (String × Procedure) := [
  ("cat", cat), ("tee", tee), ("head", ends "head" false), ("tail", ends "tail" true),
  ("wc", wc), ("tr", tr), ("cut", cut), ("sort", sort), ("uniq", uniq), ("rev", rev), ("seq", seq),
  ("grep", grep false false), ("egrep", grep true false), ("fgrep", grep false true),
  ("sed", sed), ("tac", tac), ("nl", nl), ("paste", paste), ("fold", fold), ("od", od),
  ("touch", touch), ("mkdir", mkdir), ("rmdir", rmdir), ("rm", rm), ("cp", cp),
  ("mv", mv), ("chmod", chmod), ("ls", ls), ("basename", basename), ("dirname", dirname),
  ("cmp", cmp), ("find", find), ("expr", expr), ("sleep", sleep), ("yes", yes)]

/-- The commands that the shell carries out itself. -/
def within : List (String × Procedure) := [
  ("echo", echo), ("printf", printf), ("test", test), ("[", bracket),
  ("true", fun _ => pure 0), ("false", fun _ => pure 1)]

/-- Programs that are files of the system although the shell or this library treats them apart. -/
def others : List String :=
  ["sh", "dash", "env", "pwd", "nohup", "timeout", "xargs", "kill", "which"]

/-- Whether there is a program of a name that can be carried out. -/
def isProgram (name : String) : Bool :=
  (table.any fun x => x.1 == name) || (within.any fun x => x.1 == name) || others.contains name

/-- Programs that are installed but are not carried out in memory. -/
def installed : List String :=
  ["go", "gofmt", "bash", "perl", "awk", "mawk", "diff", "tar", "gzip", "gunzip",
    "date", "id", "whoami", "uname", "hostname", "stat", "readlink", "realpath", "mktemp",
    "md5sum", "sha1sum", "sha256sum", "base64", "cksum", "comm", "csplit", "dd", "df", "du",
    "expand", "factor", "fmt", "groups", "install", "join", "link", "ln", "logname",
    "mkfifo", "nice", "nproc", "numfmt", "pr", "printenv", "ptx", "shred", "shuf",
    "split", "stdbuf", "stty", "sum", "sync", "truncate", "tsort", "tty", "unexpand",
    "unlink", "users", "who", "ps"]

/-- Whether a program of a name is installed. -/
def isInstalled (name : String) : Bool :=
  isProgram name || installed.contains name

end Utility
end Shell
end Trainer
