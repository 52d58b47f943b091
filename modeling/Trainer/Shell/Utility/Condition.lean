import Trainer.Number
import Trainer.Shell.Arithmetic
import Trainer.Shell.Utility.TextTools

/-!
# Conditions

`test` and `[`: an expression over texts, numbers and files, with negation, conjunction,
alternatives and parentheses.  Whether a word is an operator or an operand depends on the words
behind it.
-/

namespace Trainer
namespace Shell
namespace Utility

open Sh

/-- What a word of a condition can be. -/
inductive TestToken where
  | ending
  | operand
  | unary
  | binary
  | negation
  | conjunction
  | alternative
  | opening
  | closing
deriving DecidableEq, Repr

def unaryOperators : List String :=
  ["-r", "-w", "-x", "-e", "-f", "-d", "-c", "-b", "-p", "-u", "-g", "-k", "-s", "-t", "-z", "-n",
    "-h", "-L", "-S", "-O", "-G"]

def binaryOperators : List String :=
  ["=", "!=", "<", ">", "-eq", "-ne", "-gt", "-ge", "-lt", "-le", "-nt", "-ot", "-ef"]

def isBinary (a : Bytes) : Bool := binaryOperators.contains (String.ofList a)

/-- What the word in front is. -/
def tokenOf : List Bytes → TestToken
  | [] => .ending
  | a :: rest =>
      let s := String.ofList a
      if unaryOperators.contains s then
        match rest with
        | [] => .operand
        | [_] => .unary
        | b :: _ :: _ => if isBinary b then .operand else .unary
      else if isBinary a then .binary
      else if s = "!" then .negation
      else if s = "-a" then .conjunction
      else if s = "-o" then .alternative
      else if s = "(" then (if rest.isEmpty then .operand else .opening)
      else if s = ")" then .closing
      else .operand

/-- A condition that is none, or that asks for a number where there is none. -/
inductive TestMistake where
  | unexpected (a : Bytes)
  | missing (operator : Bytes)
  | open
  | badNumber (a : Bytes)

def TestMistake.message : TestMistake → Bytes
  | .unexpected a => a ++ (if a.isEmpty then "" else ": ").toList ++ "unexpected operator".toList
  | .missing operator => operator ++ ": argument expected".toList
  | .open => "closing paren expected".toList
  | .badNumber a => "Illegal number: ".toList ++ a

/-- A number in decimal, blanks around it admitted. -/
def testNumber (a : Bytes) : Except TestMistake Int :=
  let isBlank := fun c : Char => c == ' ' || ('\t' ≤ c && c ≤ '\r')
  let body := a.dropWhile isBlank
  let (negative, digits) :=
    match body with
    | '-' :: ds => (true, ds)
    | '+' :: ds => (false, ds)
    | ds => (false, ds)
  let ds := digits.takeWhile Char.isDigit
  let n : Int := Chars.digitsValue ds
  let n := if negative then -n else n
  if !ds.isEmpty && (digits.drop ds.length).all isBlank && -(twoTo 63 : Int) ≤ n && n < (twoTo 63 : Int) then
    .ok n
  else .error (.badNumber a)

/-- Paths of the system that are there although the tree does not hold them. -/
def isDevice (a : Bytes) : Bool :=
  ["/dev/null", "/dev/zero", "/dev/stdin", "/dev/stdout", "/dev/stderr", "/dev/tty",
    "/dev/urandom", "/dev/random", "/dev/full"].contains (String.ofList a)

def unaryTest (op : Bytes) (a : Bytes) : Sh (Except TestMistake Bool) := do
  let t ← tree
  let there := t.exists? (pathOf a) || isDevice a
  match String.ofList op with
  | "-n" => return .ok !a.isEmpty
  | "-z" => return .ok a.isEmpty
  | "-e" => return .ok there
  | "-f" => return .ok (t.isFile (pathOf a))
  | "-d" => return .ok (t.isDirectory (pathOf a))
  | "-r" => return .ok there
  | "-w" => return .ok there
  | "-O" => return .ok there
  | "-G" => return .ok there
  | "-x" =>
      match t.lookup (pathOf a) with
      | .ok (_, .directory) => return .ok true
      | .ok (_, .file i _) => return .ok (t.executable.contains i)
      | .error _ => return .ok false
  | "-s" =>
      match t.readBytes (pathOf a) with
      | .ok b => return .ok (0 < b.size)
      | .error .isDirectory => return .ok true
      | .error _ => return .ok false
  | "-t" => return (testNumber a).map fun _ => false
  | "-c" => return .ok (["/dev/null", "/dev/zero", "/dev/tty", "/dev/urandom", "/dev/random",
      "/dev/full"].contains (String.ofList a))
  | _ => return .ok false

def binaryTest (a op b : Bytes) : Sh (Except TestMistake Bool) := do
  let compare := fun f : Int → Int → Bool => do
    let m ← testNumber a
    let n ← testNumber b
    return f m n
  let t ← tree
  match String.ofList op with
  | "=" => return .ok (a == b)
  | "!=" => return .ok (a != b)
  | "<" => return .ok (bytesLe a b && a != b)
  | ">" => return .ok (bytesLe b a && a != b)
  | "-eq" => return compare fun m n => m == n
  | "-ne" => return compare fun m n => m != n
  | "-lt" => return compare fun m n => decide (m < n)
  | "-le" => return compare fun m n => decide (m ≤ n)
  | "-gt" => return compare fun m n => decide (n < m)
  | "-ge" => return compare fun m n => decide (n ≤ m)
  | "-ef" =>
      match t.resolve (pathOf a), t.resolve (pathOf b) with
      | .ok x, .ok y => return .ok (x == y && t.exists? (pathOf a))
      | _, _ => return .ok false
  | _ => return .ok false

/-- A value or a mistake, and the words from the last one used on. -/
abbrev TestResult := Except TestMistake (Bool × List Bytes)

mutual

/-- Alternatives; `token` is what the first word is. -/
def testOr : Nat → TestToken → List Bytes → Sh TestResult
  | 0, _, ws => return .ok (false, ws)
  | fuel + 1, token, ws => do
      match ← testAnd fuel token ws with
      | .error e => return .error e
      | .ok (a, ws) =>
          if tokenOf (ws.drop 1) = .alternative then
            match ← testOr fuel (tokenOf (ws.drop 2)) (ws.drop 2) with
            | .error e => return .error e
            | .ok (b, ws) => return .ok (a || b, ws)
          else return .ok (a, ws)

def testAnd : Nat → TestToken → List Bytes → Sh TestResult
  | 0, _, ws => return .ok (false, ws)
  | fuel + 1, token, ws => do
      match ← testNot fuel token ws with
      | .error e => return .error e
      | .ok (a, ws) =>
          if tokenOf (ws.drop 1) = .conjunction then
            match ← testAnd fuel (tokenOf (ws.drop 2)) (ws.drop 2) with
            | .error e => return .error e
            | .ok (b, ws) => return .ok (a && b, ws)
          else return .ok (a, ws)

def testNot : Nat → TestToken → List Bytes → Sh TestResult
  | 0, _, ws => return .ok (false, ws)
  | fuel + 1, token, ws => do
      if token ≠ .negation then testPrimary fuel token ws
      else
        let next := tokenOf (ws.drop 1)
        match ← testNot fuel next (if next = .ending then ws else ws.drop 1) with
        | .error e => return .error e
        | .ok (a, ws) => return .ok (!a, ws)

def testPrimary : Nat → TestToken → List Bytes → Sh TestResult
  | 0, _, ws => return .ok (false, ws)
  | fuel + 1, token, ws => do
      match token, ws with
      | .ending, _ => return .ok (false, ws)
      | .opening, _ :: rest => do
          let next := tokenOf rest
          if next = .closing then return .ok (false, rest)
          match ← testOr fuel next rest with
          | .error e => return .error e
          | .ok (a, ws) =>
              if tokenOf (ws.drop 1) = .closing then return .ok (a, ws.drop 1)
              else return .error .open
      | .unary, op :: a :: rest => do
          match ← unaryTest op a with
          | .error e => return .error e
          | .ok v => return .ok (v, a :: rest)
      | _, a :: op :: rest =>
          if tokenOf (op :: rest) = .binary then
            match rest with
            | [] => return .error (.missing op)
            | b :: _ => do
                match ← binaryTest a op b with
                | .error e => return .error e
                | .ok v => return .ok (v, rest)
          else return .ok (!a.isEmpty, ws)
      | _, _ => return .ok (!(ws.headD []).isEmpty, ws)

end

/-- The value of a whole condition, whose first words decide how it is to be read. -/
def testValue : Nat → List Bytes → Sh (Except TestMistake Bool)
  | 0, _ => return .ok false
  | _ + 1, [] => return .ok false
  | fuel + 1, ws => do
      let whole := fun (token : TestToken) (ws : List Bytes) => do
        match ← testOr (8 * ws.length + 8) token ws with
        | .error e => return .error e
        | .ok (_, a :: _ :: _) => return .error (.unexpected a)
        | .ok (v, _) => return .ok v
      let bracketed := ws.head? = some ['('] && ws.getLast? = some [')']
      if ws.length = 3 && (ws[1]?).any isBinary then whole .operand ws
      else if (ws.length = 3 || ws.length = 4) && bracketed then
        let inner := (ws.drop 1).dropLast
        whole (tokenOf inner) inner
      else if (ws.length = 3 || ws.length = 4) && ws.head? = some ['!'] then
        return (← testValue fuel (ws.drop 1)).map not
      else whole (tokenOf ws) ws

/-- Evaluates a condition; the status is two if it is none. -/
def test : Procedure := fun args => do
  match ← testValue (args.length + 2) args with
  | .ok v => return if v then 0 else 1
  | .error e => do
      report e.message
      return 2

/-- The same with a closing bracket as the last argument. -/
def bracket : Procedure := fun args => do
  match args.reverse with
  | [']'] :: rest => test rest.reverse
  | _ =>
      report "missing ]".toList
      return 2

end Utility
end Shell
end Trainer
