import Trainer.Text

/-!
# Sets of characters

A set of characters is a list of ranges of code points in increasing order, without overlap.  The
code points that are no characters (the surrogates) belong to no set that is built here.
-/

namespace Trainer

/-- A set of characters as ranges, ends included, in increasing order. -/
structure CharSet where
  ranges : List (Nat × Nat)
deriving DecidableEq, Repr, Inhabited

namespace CharSet

/-! ## Construction -/

/-- Joins a range with ranges that start no earlier, where they touch or overlap. -/
def joinFrom (r : Nat × Nat) : List (Nat × Nat) → List (Nat × Nat)
  | [] => [r]
  | t :: rest =>
      if t.1 ≤ r.2 + 1 then joinFrom (r.1, max r.2 t.2) rest else r :: joinFrom t rest

/-- Joins ranges that are ordered by their starts, where they touch or overlap. -/
def joinRanges : List (Nat × Nat) → List (Nat × Nat)
  | [] => []
  | r :: rest => joinFrom r rest

def ofRanges (rs : List (Nat × Nat)) : CharSet :=
  ⟨joinRanges ((rs.filter fun r => r.1 ≤ r.2).mergeSort fun x y => x.1 ≤ y.1)⟩

def empty : CharSet := ⟨[]⟩

def all : CharSet := ⟨[(0, 0xD7FF), (0xE000, 0x10FFFF)]⟩

def ascii : CharSet := ⟨[(0, 0x7F)]⟩

def single (n : Nat) : CharSet := ⟨[(n, n)]⟩

/-! ## Membership and algebra -/

def mem (s : CharSet) (c : Char) : Bool :=
  s.ranges.any fun r => r.1 ≤ c.toNat && c.toNat ≤ r.2

def isEmpty (s : CharSet) : Bool := s.ranges.isEmpty

def union (s t : CharSet) : CharSet :=
  ofRanges (s.ranges ++ t.ranges)

/-- The ranges that two ranges have in common with each other. -/
def meetRanges (rs ts : List (Nat × Nat)) : List (Nat × Nat) :=
  rs.flatMap fun r => ts.filterMap fun t =>
    if max r.1 t.1 ≤ min r.2 t.2 then some (max r.1 t.1, min r.2 t.2) else none

def inter (s t : CharSet) : CharSet :=
  ofRanges (meetRanges s.ranges t.ranges)

/-- The ranges between the ranges of a list, from `start` up to `stop`. -/
def gaps (start stop : Nat) : List (Nat × Nat) → List (Nat × Nat)
  | [] => if start ≤ stop then [(start, stop)] else []
  | (a, b) :: rest =>
      if start < a then (start, a - 1) :: gaps (b + 1) stop rest else gaps (b + 1) stop rest

def complement (s : CharSet) : CharSet :=
  inter ⟨gaps 0 0x10FFFF s.ranges⟩ all

def diff (s t : CharSet) : CharSet :=
  inter s t.complement

def symmDiff (s t : CharSet) : CharSet :=
  union (diff s t) (diff t s)

/-- Whether every character of a set is in another one. -/
def within (s t : CharSet) : Bool :=
  (diff s t).isEmpty

/-- Adds to a set the partners of its characters, given as pairs of code points. -/
def closeUnder (pairs : List (Nat × Nat)) (s : CharSet) : CharSet :=
  let has := fun n : Nat => s.ranges.any fun r => r.1 ≤ n && n ≤ r.2
  let more := pairs.filterMap fun p =>
    if has p.1 then some (p.2, p.2) else if has p.2 then some (p.1, p.1) else none
  ofRanges (s.ranges ++ more)

/-! ## Written tables -/

/-- The value of a digit in hexadecimal, upper case letters only. -/
def hexDigit (c : Char) : Nat :=
  if c.isDigit then c.toNat - 48 else c.toNat - 55

def hexNumber (s : String) : Nat :=
  s.foldl (fun n c => 16 * n + hexDigit c) 0

/-- The parts of a table between blanks. -/
def fields (s : String) : List String :=
  (Chars.words s.toList).map String.ofList

/-- Ranges from gaps and lengths, the first gap starting at `start`. -/
def gapRanges (start : Nat) : List String → List (Nat × Nat)
  | gap :: length :: rest =>
      let a := start + hexNumber gap
      let stop := a + hexNumber length
      (a, stop - 1) :: gapRanges stop rest
  | _ => []

/-- The set that a table of gaps and lengths denotes. -/
def ofTable (s : String) : CharSet :=
  ofRanges (gapRanges 0 (fields s))

end CharSet
end Trainer
