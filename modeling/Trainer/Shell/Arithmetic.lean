import Trainer.Number
import Trainer.Shell.Command

/-!
# Arithmetic of the shell

Expressions over 64-bit integers that wrap around, with variables and assignments.  A written
number that is too large counts as the largest integer.
-/

namespace Trainer
namespace Shell
namespace Arithmetic

inductive Mistake where
  | expected (what : String)
  | divisionByZero
  /-- A variable whose value is no number. -/
  | badNumber (value : Bytes)
deriving DecidableEq, Repr

inductive Token where
  | number (n : Int)
  | name (s : Bytes)
  | op (s : String)
  /-- What belongs to no expression. -/
  | bad
deriving DecidableEq, Repr

inductive Expr where
  | number (n : Int)
  | name (s : Bytes)
  | unary (op : String) (a : Expr)
  | binary (op : String) (a b : Expr)
  | choose (test a b : Expr)
  | assign (target : Bytes) (op : String) (a : Expr)
deriving Repr, Inhabited

/-- Wraps an integer to 64 bits. -/
def wrap (n : Int) : Int := n.bmod (twoTo 64)

/-- The operators, longer ones first. -/
def operators : List String :=
  ["<<=", ">>=", "&&", "||", "<<", ">>", "<=", ">=", "==", "!=", "+=", "-=", "*=", "/=", "%=",
    "&=", "|=", "^=", "+", "-", "*", "/", "%", "&", "|", "^", "~", "!", "<", ">", "=", "?", ":",
    "(", ")"]

/-- The value of a digit, if it is one in a base. -/
def digitIn? (base : Nat) (c : Char) : Option Nat :=
  let d := if c.isDigit then c.toNat - 48
    else if c.isAlpha then c.toLower.toNat - 87 else base
  if d < base then some d else none

/-- The base of a number that starts here, and how many characters say so. -/
def baseOf : Bytes → Nat × Nat
  | '0' :: x :: d :: _ =>
      if (x == 'x' || x == 'X') && (digitIn? 16 d).isSome then (16, 2) else (8, 0)
  | '0' :: _ => (8, 0)
  | _ => (10, 0)

/-- The digits at the front of a number in its base, and what follows them. -/
def splitNumber (cs : Bytes) : Nat × Bytes :=
  let (base, skipped) := baseOf cs
  let ds := (cs.drop skipped).takeWhile fun c => (digitIn? base c).isSome
  (ds.foldl (fun n c => base * n + (digitIn? base c).getD 0) 0, cs.drop (skipped + ds.length))

def largest : Nat := twoTo 63 - 1

def tokens : Nat → Bytes → List Token
  | 0, _ => [.bad]
  | _ + 1, [] => []
  | fuel + 1, c :: cs =>
      if c = ' ' ∨ c = '\t' ∨ c = '\n' then tokens fuel cs
      else if c.isDigit then
        let (n, rest) := splitNumber (c :: cs)
        .number (min n largest : Nat) :: tokens fuel rest
      else if c.isAlpha ∨ c = '_' then
        let name := (c :: cs).takeWhile fun d => d.isAlphanum || d == '_'
        .name name :: tokens fuel ((c :: cs).drop name.length)
      else
        match operators.find? fun o => o.toList.isPrefixOf (c :: cs) with
        | some o => .op o :: tokens fuel ((c :: cs).drop o.length)
        | none => [.bad]

/-- How tightly a binary operator binds. -/
def strength : String → Option Nat
  | "*" => some 10
  | "/" => some 10
  | "%" => some 10
  | "+" => some 9
  | "-" => some 9
  | "<<" => some 8
  | ">>" => some 8
  | "<" => some 7
  | ">" => some 7
  | "<=" => some 7
  | ">=" => some 7
  | "==" => some 6
  | "!=" => some 6
  | "&" => some 5
  | "^" => some 4
  | "|" => some 3
  | "&&" => some 2
  | "||" => some 1
  | _ => none

mutual

/-- Reads an assignment or a choice. -/
def readExpr : Nat → List Token → Except Mistake (Expr × List Token)
  | 0, _ => .error (.expected "primary")
  | fuel + 1, ts =>
      match ts with
      | .name n :: .op o :: rest =>
          if ["=", "+=", "-=", "*=", "/=", "%=", "<<=", ">>=", "&=", "|=", "^="].contains o then
            (readExpr fuel rest).map fun x =>
              (.assign n (String.ofList o.toList.dropLast) x.1, x.2)
          else readChoice fuel ts
      | ts => readChoice fuel ts

def readChoice : Nat → List Token → Except Mistake (Expr × List Token)
  | 0, _ => .error (.expected "primary")
  | fuel + 1, ts => do
      let (test, rest) ← readBinary fuel 1 ts
      match rest with
      | .op "?" :: rest =>
          let (a, rest) ← readExpr fuel rest
          match rest with
          | .op ":" :: rest =>
              let (b, rest) ← readChoice fuel rest
              return (.choose test a b, rest)
          | _ => .error (.expected "':'")
      | rest => return (test, rest)

/-- Reads operations that bind at least so tightly. -/
def readBinary : Nat → Nat → List Token → Except Mistake (Expr × List Token)
  | 0, _, _ => .error (.expected "primary")
  | fuel + 1, least, ts => do
      let (a, rest) ← readUnary fuel ts
      readRest fuel least a rest

def readRest : Nat → Nat → Expr → List Token → Except Mistake (Expr × List Token)
  | 0, _, _, _ => .error (.expected "primary")
  | fuel + 1, least, a, ts =>
      match ts with
      | .op o :: rest =>
          match strength o with
          | some s =>
              if least ≤ s then do
                let (b, rest) ← readBinary fuel (s + 1) rest
                readRest fuel least (.binary o a b) rest
              else .ok (a, ts)
          | none => .ok (a, ts)
      | ts => .ok (a, ts)

def readUnary : Nat → List Token → Except Mistake (Expr × List Token)
  | 0, _ => .error (.expected "primary")
  | fuel + 1, ts =>
      match ts with
      | .number n :: rest => .ok (.number n, rest)
      | .name n :: rest => .ok (.name n, rest)
      | .op "(" :: rest => do
          let (a, rest) ← readExpr fuel rest
          match rest with
          | .op ")" :: rest => return (a, rest)
          | _ => .error (.expected "')'")
      | .op o :: rest =>
          if ["-", "+", "!", "~"].contains o then do
            let (a, rest) ← readUnary fuel rest
            return (.unary o a, rest)
          else .error (.expected "primary")
      | _ => .error (.expected "primary")

end

def truth (b : Bool) : Int := if b then 1 else 0

/-- The two's complement bits of an integer. -/
def bits (n : Int) : Nat := (n % (twoTo 64 : Int)).toNat

/-- Applies an operator to two values. -/
def apply (op : String) (a b : Int) : Except Mistake Int :=
  match op with
  | "*" => .ok (wrap (a * b))
  | "/" => if b = 0 then .error .divisionByZero else .ok (wrap (a.tdiv b))
  | "%" => if b = 0 then .error .divisionByZero else .ok (wrap (a.tmod b))
  | "+" => .ok (wrap (a + b))
  | "-" => .ok (wrap (a - b))
  | "<<" => .ok (wrap (a * (twoTo (bits b % 64) : Int)))
  | ">>" => .ok (a.fdiv (twoTo (bits b % 64) : Int))
  | "<" => .ok (truth (a < b))
  | ">" => .ok (truth (b < a))
  | "<=" => .ok (truth (a ≤ b))
  | ">=" => .ok (truth (b ≤ a))
  | "==" => .ok (truth (a == b))
  | "!=" => .ok (truth (a != b))
  | "&" => .ok (wrap (Nat.land (bits a) (bits b)))
  | "^" => .ok (wrap (Nat.xor (bits a) (bits b)))
  | "|" => .ok (wrap (Nat.lor (bits a) (bits b)))
  | "&&" => .ok (truth (a != 0 && b != 0))
  | "||" => .ok (truth (a != 0 || b != 0))
  | _ => .ok b

/-- Variables by their names. -/
abbrev Env := List (Bytes × Bytes)

/-- An integer as the shell writes it. -/
def text (n : Int) : Bytes := (toString n).toList

/-- A text that is nothing but an integer, blanks around it admitted. -/
def integerOf? (cs : Bytes) : Option Int :=
  let isBlank := fun c : Char => c == ' ' || ('\t' ≤ c && c ≤ '\r')
  let body := cs.dropWhile isBlank
  let (negative, digits) :=
    match body with
    | '-' :: ds => (true, ds)
    | '+' :: ds => (false, ds)
    | ds => (false, ds)
  let (n, rest) := splitNumber digits
  let n : Int := if negative then -(n : Int) else n
  if digits.head?.any Char.isDigit && rest.all isBlank && -(twoTo 63 : Int) ≤ n && n < (twoTo 63 : Int) then
    some n
  else none

/-- The value of a variable; one without a value counts as zero. -/
def valueOf (env : Env) (name : Bytes) : Except Mistake Int :=
  match env.lookup name with
  | none => .ok 0
  | some [] => .ok 0
  | some value =>
      match integerOf? value with
      | some n => .ok n
      | none => .error (.badNumber value)

/-- Evaluates an expression; assignments change the variables. -/
def evaluate (env : Env) : Expr → Except Mistake (Int × Env)
  | .number n => .ok (n, env)
  | .name s => (valueOf env s).map fun n => (n, env)
  | .unary op a =>
      (evaluate env a).map fun x =>
        (match op with
          | "-" => wrap (-x.1)
          | "!" => truth (x.1 == 0)
          | "~" => wrap (-x.1 - 1)
          | _ => x.1, x.2)
  | .binary op a b =>
      match evaluate env a with
      | .error e => .error e
      | .ok (m, env) =>
          if op = "&&" ∧ m = 0 then .ok (0, env)
          else if op = "||" ∧ m ≠ 0 then .ok (1, env)
          else
            match evaluate env b with
            | .error e => .error e
            | .ok (n, env) => (apply op m n).map fun r => (r, env)
  | .choose test a b =>
      match evaluate env test with
      | .error e => .error e
      | .ok (m, env) => if m ≠ 0 then evaluate env a else evaluate env b
  | .assign target op a =>
      match evaluate env a with
      | .error e => .error e
      | .ok (n, env) =>
          let value :=
            if op = "" then .ok n
            else match valueOf env target with
              | .ok m => apply op m n
              | .error e => .error e
          value.map fun v => (v, (target, text v) :: env.filter (·.1 != target))

/-- The value of an expression and the variables after it. -/
def run (env : Env) (cs : Bytes) : Except Mistake (Int × Env) :=
  let ts := tokens (cs.length + 1) cs
  match readExpr (6 * ts.length + 12) ts with
  | .ok (e, []) => evaluate env e
  | .ok _ => .error (.expected "EOF")
  | .error e => .error e

def Mistake.message (expression : Bytes) : Mistake → Bytes
  | .expected what =>
      ("arithmetic expression: expecting " ++ what ++ ": \"").toList ++ expression ++ ['"']
  | .divisionByZero =>
      "arithmetic expression: division by zero: \"".toList ++ expression ++ ['"']
  | .badNumber value => "Illegal number: ".toList ++ value

end Arithmetic
end Shell
end Trainer
