import Trainer.Shell.Command

/-!
# Patterns of the shell

The patterns of file names and of `case`: a star for any text, a question mark for any character,
brackets for a choice of characters.  Quoted characters stand for themselves.
-/

namespace Trainer
namespace Shell
namespace Glob

inductive Item where
  | literal (c : Char)
  | anyChar
  | anyText
  | choice (negated : Bool) (ranges : List (Char × Char))
deriving DecidableEq, Repr

/-- The characters of a named class, as ranges. -/
def classRanges (name : Bytes) : List (Char × Char) :=
  match String.ofList name with
  | "alnum" => [('0', '9'), ('A', 'Z'), ('a', 'z')]
  | "alpha" => [('A', 'Z'), ('a', 'z')]
  | "blank" => [(' ', ' '), ('\t', '\t')]
  | "cntrl" => [('\x00', '\x1f'), ('\x7f', '\x7f')]
  | "digit" => [('0', '9')]
  | "graph" => [('!', '~')]
  | "lower" => [('a', 'z')]
  | "print" => [(' ', '~')]
  | "punct" => [('!', '/'), (':', '@'), ('[', '\x60'), ('\x7b', '~')]
  | "space" => [('\t', '\r'), (' ', ' ')]
  | "upper" => [('A', 'Z')]
  | "xdigit" => [('0', '9'), ('A', 'F'), ('a', 'f')]
  | _ => []

/-- Reads the choice in brackets: its ranges and what follows the closing bracket. -/
def choiceOf : Nat → Bool → List (Char × Bool) →
    Option (List (Char × Char) × List (Char × Bool))
  | 0, _, _ => none
  | fuel + 1, first, cs =>
      match cs with
      | [] => none
      | (']', false) :: rest =>
          if first then (choiceOf fuel false rest).map fun x => ((']', ']') :: x.1, x.2)
          else some ([], rest)
      | ('[', false) :: (':', _) :: rest =>
          let name := (rest.map Prod.fst).takeWhile (· != ':')
          match rest.drop name.length with
          | (':', _) :: (']', _) :: rest =>
              (choiceOf fuel false rest).map fun x => (classRanges name ++ x.1, x.2)
          | _ => (choiceOf fuel false ((':', false) :: rest)).map fun x => (('[', '[') :: x.1, x.2)
      | (a, _) :: ('-', false) :: (b, q) :: rest =>
          if b = ']' ∧ q = false then
            (choiceOf fuel false ((b, q) :: rest)).map fun x => ((a, a) :: ('-', '-') :: x.1, x.2)
          else (choiceOf fuel false rest).map fun x => ((a, b) :: x.1, x.2)
      | (a, _) :: rest => (choiceOf fuel false rest).map fun x => ((a, a) :: x.1, x.2)

/-- Reads a pattern; the flag of a character says whether it is quoted. -/
def parse : Nat → List (Char × Bool) → List Item
  | 0, _ => []
  | _ + 1, [] => []
  | fuel + 1, ('*', false) :: rest => .anyText :: parse fuel rest
  | fuel + 1, ('?', false) :: rest => .anyChar :: parse fuel rest
  | fuel + 1, ('[', false) :: rest =>
      let (negated, inner) :=
        match rest with
        | ('!', false) :: inner => (true, inner)
        | ('^', false) :: inner => (true, inner)
        | inner => (false, inner)
      match choiceOf (inner.length + 1) true inner with
      | some (ranges, after) => .choice negated ranges :: parse fuel after
      | none => .literal '[' :: parse fuel rest
  | fuel + 1, (c, _) :: rest => .literal c :: parse fuel rest

def items (cs : List (Char × Bool)) : List Item :=
  parse (cs.length + 1) cs

/-- All ends of a list, the whole list first. -/
def tails : Bytes → List Bytes
  | [] => [[]]
  | c :: cs => (c :: cs) :: tails cs

def fits : List Item → Bytes → Bool
  | [], cs => cs.isEmpty
  | .anyText :: rest, cs => (tails cs).any fun t => fits rest t
  | .anyChar :: rest, cs =>
      match cs with
      | [] => false
      | _ :: more => fits rest more
  | .literal c :: rest, cs =>
      match cs with
      | [] => false
      | d :: more => c == d && fits rest more
  | .choice negated ranges :: rest, cs =>
      match cs with
      | [] => false
      | d :: more =>
          (ranges.any fun r => r.1 ≤ d && d ≤ r.2) != negated && fits rest more

/-- Whether a pattern has an element that does not stand for itself. -/
def isActive (p : List Item) : Bool :=
  p.any fun i => match i with
    | .literal _ => false
    | _ => true

/-- Removes the shortest or longest start that fits. -/
def dropStart (longest : Bool) (p : List Item) (cs : Bytes) : Bytes :=
  let lengths := List.range (cs.length + 1)
  match (if longest then lengths.reverse else lengths).find? fun n => fits p (cs.take n) with
  | some n => cs.drop n
  | none => cs

/-- Removes the shortest or longest end that fits. -/
def dropEnd (longest : Bool) (p : List Item) (cs : Bytes) : Bytes :=
  let lengths := List.range (cs.length + 1)
  match (if longest then lengths else lengths.reverse).find? fun n => fits p (cs.drop n) with
  | some n => cs.take n
  | none => cs

end Glob
end Shell
end Trainer
