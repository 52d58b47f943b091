import Trainer.Shell.Glob

/-!
# Searching with regular expressions

The regular expressions of the utilities that search and edit, in their basic and their extended
form, and a search that also finds what the groups stand for.
-/

namespace Trainer
namespace Shell
namespace Search

inductive Re where
  | empty
  | literal (c : Char)
  | anyChar
  | choice (negated : Bool) (ranges : List (Char × Char))
  | lineStart
  | lineEnd
  | wordEdge (isEdge : Bool)
  | seq (a b : Re)
  | either (a b : Re)
  | times (a : Re) (least : Nat) (most : Option Nat)
  | group (n : Nat) (a : Re)
  | back (n : Nat)
deriving Repr, Inhabited

/-! ## Reading -/

def choiceOf (cs : Bytes) : Option (Re × Bytes) :=
  let (negated, inner) :=
    match cs with
    | '^' :: inner => (true, inner)
    | inner => (false, inner)
  (Glob.choiceOf (inner.length + 1) true (inner.map (·, false))).map fun x =>
    (.choice negated x.1, x.2.map Prod.fst)

/-- Reads the bounds of a repetition up to the text that ends them, which goes. -/
def boundsOf (ending : Bytes) (cs : Bytes) : Option (Nat × Option Nat × Bytes) :=
  let low := cs.takeWhile Char.isDigit
  let rest := cs.drop low.length
  let least := Chars.digitsValue low
  match rest with
  | ',' :: rest =>
      let high := rest.takeWhile Char.isDigit
      let rest := rest.drop high.length
      if ending.isPrefixOf rest then
        some (least, if high.isEmpty then none else some (Chars.digitsValue high),
          rest.drop ending.length)
      else none
  | rest =>
      if !low.isEmpty && ending.isPrefixOf rest then
        some (least, some least, rest.drop ending.length)
      else none

/-- The expression in the course of being read: branches and items, last first, and groups. -/
structure Progress where
  branches : List Re
  items : List Re
  groups : Nat

/-- Items, last first, as one expression. -/
def joinItems (items : List Re) : Re :=
  items.foldl (fun acc r => match acc with
    | .empty => r
    | acc => .seq r acc) .empty

def Progress.value (p : Progress) : Re :=
  p.branches.foldl (fun acc b => .either b acc) (joinItems p.items)

def Progress.again (p : Progress) (least : Nat) (most : Option Nat) : Option Progress :=
  match p.items with
  | r :: rest => some { p with items := .times r least most :: rest }
  | [] => none

/-- Reads up to the end of a group, which stays, or of the text. -/
def read (extended : Bool) : Nat → Progress → Bytes → Option (Progress × Bytes)
  | 0, _, _ => none
  | fuel + 1, p, cs =>
      let push := fun (r : Re) (rest : Bytes) =>
        read extended fuel { p with items := r :: p.items } rest
      let again := fun (least : Nat) (most : Option Nat) (rest : Bytes) =>
        match p.again least most with
        | some p => read extended fuel p rest
        | none => none
      let group := fun (rest : Bytes) =>
        let n := p.groups + 1
        match read extended fuel ⟨[], [], n⟩ rest with
        | none => none
        | some (inner, rest) =>
            let after :=
              match rest with
              | ')' :: rest => if extended then some rest else none
              | '\\' :: ')' :: rest => if extended then none else some rest
              | _ => none
            match after with
            | none => none
            | some rest =>
                read extended fuel
                  { p with items := .group n inner.value :: p.items, groups := inner.groups } rest
      let branch := fun (rest : Bytes) =>
        read extended fuel ⟨joinItems p.items :: p.branches, [], p.groups⟩ rest
      match cs with
      | [] => some (p, [])
      | '\\' :: c :: rest =>
          if c = '(' ∧ !extended then group rest
          else if c = ')' ∧ !extended then some (p, cs)
          else if c = '|' ∧ !extended then branch rest
          else if c = '+' ∧ !extended then again 1 none rest
          else if c = '?' ∧ !extended then again 0 (some 1) rest
          else if c = '\x7b' ∧ !extended then
            match boundsOf ['\\', '\x7d'] rest with
            | some (l, m, rest) => again l m rest
            | none => none
          else if '1' ≤ c ∧ c ≤ '9' then push (.back (c.toNat - 48)) rest
          else if c = 'n' then push (.literal '\n') rest
          else if c = 't' then push (.literal '\t') rest
          else if c = 'b' then push (.wordEdge true) rest
          else if c = 'B' then push (.wordEdge false) rest
          else if c = 'w' then
            push (.choice false [('0', '9'), ('A', 'Z'), ('_', '_'), ('a', 'z')]) rest
          else if c = 'W' then
            push (.choice true [('0', '9'), ('A', 'Z'), ('_', '_'), ('a', 'z')]) rest
          else if c = 's' then push (.choice false [(' ', ' '), ('\t', '\r')]) rest
          else if c = 'S' then push (.choice true [(' ', ' '), ('\t', '\r')]) rest
          else push (.literal c) rest
      | '[' :: rest =>
          match choiceOf rest with
          | some (r, rest) => push r rest
          | none => none
      | '.' :: rest => push .anyChar rest
      | '*' :: rest =>
          if p.items.isEmpty && !extended then push (.literal '*') rest else again 0 none rest
      | '^' :: rest =>
          if extended || p.items.isEmpty then push .lineStart rest else push (.literal '^') rest
      | '$' :: rest =>
          let atEnd :=
            match rest with
            | [] => true
            | '\\' :: ')' :: _ => true
            | '\\' :: '|' :: _ => true
            | _ => false
          if extended || atEnd then push .lineEnd rest else push (.literal '$') rest
      | c :: rest =>
          if !extended then push (.literal c) rest
          else if c = '(' then group rest
          else if c = ')' then some (p, cs)
          else if c = '|' then branch rest
          else if c = '+' then again 1 none rest
          else if c = '?' then again 0 (some 1) rest
          else if c = '\x7b' then
            match boundsOf ['\x7d'] rest with
            | some (l, m, rest) => again l m rest
            | none => push (.literal c) rest
          else push (.literal c) rest

def parse? (extended : Bool) (cs : Bytes) : Option Re :=
  match read extended (2 * cs.length + 2) ⟨[], [], 0⟩ cs with
  | some (p, []) => some p.value
  | _ => none

/-! ## Matching -/

/-- A place of a text: what is before it, nearest first, and what follows. -/
structure At where
  before : Bytes
  after : Bytes
  index : Nat

/-- Where groups start and end. -/
abbrev Groups := List (Nat × (Nat × Nat))

def lowerIf (fold : Bool) (c : Char) : Char := if fold then c.toLower else c

def isWord (c : Option Char) : Bool :=
  c.any fun d => d.isAlphanum || d == '_'

def takeOne (accept : Char → Bool) (x : At) : Option At :=
  match x.after with
  | c :: rest => if accept c then some ⟨c :: x.before, rest, x.index + 1⟩ else none
  | [] => none

/-- Goes over a text that has to come next. -/
def takeText (fold : Bool) : Bytes → At → Option At
  | [], x => some x
  | c :: cs, x =>
      match takeOne (fun d => lowerIf fold d == lowerIf fold c) x with
      | some y => takeText fold cs y
      | none => none

/-- Matches at a place and goes on with `next`; longer repetitions are tried first. -/
def runAt (fold : Bool) (all : Bytes) : Nat → Re → At → Groups →
    (At → Groups → Option (Nat × Groups)) → Option (Nat × Groups)
  | 0, _, _, _, _ => none
  | fuel + 1, r, x, gs, next =>
      match r with
      | .empty => next x gs
      | .literal c =>
          match takeOne (fun d => lowerIf fold d == lowerIf fold c) x with
          | some y => next y gs
          | none => none
      | .anyChar =>
          match takeOne (fun _ => true) x with
          | some y => next y gs
          | none => none
      | .choice negated ranges =>
          let inside := fun d : Char =>
            ranges.any fun q =>
              (q.1 ≤ d && d ≤ q.2) || (fold && ((q.1 ≤ d.toLower && d.toLower ≤ q.2) ||
                (q.1 ≤ d.toUpper && d.toUpper ≤ q.2)))
          match takeOne (fun d => inside d != negated) x with
          | some y => next y gs
          | none => none
      | .lineStart => if x.before.isEmpty then next x gs else none
      | .lineEnd => if x.after.isEmpty then next x gs else none
      | .wordEdge isEdge =>
          if (isWord x.before.head? != isWord x.after.head?) == isEdge then next x gs else none
      | .seq a b => runAt fold all fuel a x gs fun y gs => runAt fold all fuel b y gs next
      | .either a b =>
          match runAt fold all fuel a x gs next with
          | some found => some found
          | none => runAt fold all fuel b x gs next
      | .times a least most =>
          if least = 0 then
            let longer :=
              if most = some 0 then none
              else runAt fold all fuel a x gs fun y gs =>
                if y.index = x.index then none
                else runAt fold all fuel (.times a 0 (most.map (· - 1))) y gs next
            match longer with
            | some found => some found
            | none => next x gs
          else
            runAt fold all fuel a x gs fun y gs =>
              runAt fold all fuel (.times a (least - 1) (most.map (· - 1))) y gs next
      | .group n a =>
          runAt fold all fuel a x gs fun y gs =>
            next y ((n, (x.index, y.index)) :: gs.filter (·.1 != n))
      | .back n =>
          match gs.lookup n with
          | some (i, j) =>
              match takeText fold ((all.drop i).take (j - i)) x with
              | some y => next y gs
              | none => none
          | none => none

/-- The first match at or behind a place: its start, its end and its groups. -/
def findFrom (fold : Bool) (all : Bytes) (r : Re) : Nat → At → Option (Nat × Nat × Groups)
  | 0, _ => none
  | tries + 1, x =>
      match runAt fold all (200 * (all.length + 20)) r x [] fun y gs => some (y.index, gs) with
      | some (stop, gs) => some (x.index, stop, gs)
      | none =>
          match takeOne (fun _ => true) x with
          | some y => findFrom fold all r tries y
          | none => none

/-- The first match in a text from a place on. -/
def find (fold : Bool) (r : Re) (all : Bytes) (start : Nat) : Option (Nat × Nat × Groups) :=
  findFrom fold all r (all.length + 2) ⟨(all.take start).reverse, all.drop start, start⟩

end Search
end Shell
end Trainer
