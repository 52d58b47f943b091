import Trainer.CharSet

/-!
# Patterns

A pattern is a regular expression over characters.  Matching asks for one thing only, the first
place of a text at which a match starts (`Node.firstStart?`), so a pattern is evaluated backwards: a
goal says at which places of the text the rest of the pattern can match, and `Node.starts` turns it
into the places at which the pattern followed by that rest can match.
-/

namespace Trainer
namespace Pattern

/-! ## Expressions -/

/-- A condition on the two characters around a place. -/
inductive Look where
  | textStart
  | textEnd
  | lineStart
  | lineEnd
  /-- The start of a line that may end in a carriage return as well. -/
  | lineStartReturn
  /-- The end of a line that may end in a carriage return as well. -/
  | lineEndReturn
  | boundary (word : CharSet)
  | notBoundary (word : CharSet)
  | wordStart (word : CharSet)
  | wordEnd (word : CharSet)
  /-- No word character in front. -/
  | wordStartHalf (word : CharSet)
  /-- No word character behind. -/
  | wordEndHalf (word : CharSet)
deriving DecidableEq, Repr

inductive Node where
  | empty
  | one (set : CharSet)
  | look (l : Look)
  | seq (a b : Node)
  | either (a b : Node)
  | iterate (a : Node) (least : Nat) (most : Option Nat)
  | group (a : Node)
deriving DecidableEq, Repr, Inhabited

/-! ## Places -/

/-- The characters before and after a place of a text. -/
structure Place where
  before : Option Char
  after : Option Char
deriving DecidableEq, Repr

/-- The places from a character on. -/
def placesFrom (before : Option Char) : List Char → List Place
  | [] => [⟨before, none⟩]
  | c :: rest => ⟨before, some c⟩ :: placesFrom (some c) rest

/-- All places of a text: one more than it has characters. -/
def places (cs : List Char) : List Place :=
  placesFrom none cs

/-- Whether a character is there and in a set. -/
def inSet (set : CharSet) : Option Char → Bool
  | some c => set.mem c
  | none => false

def Look.holds (p : Place) : Look → Bool
  | .textStart => p.before.isNone
  | .textEnd => p.after.isNone
  | .lineStart => p.before.isNone || p.before == some '\n'
  | .lineEnd => p.after.isNone || p.after == some '\n'
  | .lineStartReturn =>
      p.before.isNone || p.before == some '\n' ||
        (p.before == some '\r' && p.after != some '\n')
  | .lineEndReturn =>
      p.after.isNone || p.after == some '\r' ||
        (p.after == some '\n' && p.before != some '\r')
  | .boundary w => inSet w p.before != inSet w p.after
  | .notBoundary w => inSet w p.before == inSet w p.after
  | .wordStart w => !inSet w p.before && inSet w p.after
  | .wordEnd w => inSet w p.before && !inSet w p.after
  | .wordStartHalf w => !inSet w p.before
  | .wordEndHalf w => !inSet w p.after

/-! ## Matching -/

/-- A mark for each place of a text. -/
abbrev Goal := List Bool

def Goal.or (g h : Goal) : Goal :=
  List.zipWith (fun a b => a || b) g h

/-- Applies a step until nothing changes any more, but at most so many times. -/
def untilStable (step : Goal → Goal) : Nat → Goal → Goal
  | 0, g => g
  | n + 1, g =>
      let next := step g
      if next = g then g else untilStable step n next

/-- The places from which any number of steps reaches the goal. -/
def closure (step : Goal → Goal) (g : Goal) : Goal :=
  untilStable (fun h => Goal.or g (step h)) g.length g

/-- The places from which up to `n` steps reach the goal. -/
def upTo (step : Goal → Goal) (n : Nat) (g : Goal) : Goal :=
  untilStable (fun h => Goal.or g (step h)) n g

/-- The step of a repetition. -/
def repeated (step : Goal → Goal) (least : Nat) (most : Option Nat) (g : Goal) : Goal :=
  let tail :=
    match most with
    | none => closure step g
    | some m => upTo step (m - least) g
  untilStable step least tail

/-- The places from which a match of the expression leads to a place of the goal. -/
def Node.starts (ps : List Place) : Node → Goal → Goal
  | .empty => fun g => g
  | .one set =>
      let hits := ps.map fun p => inSet set p.after
      fun g => List.zipWith (fun a b => a && b) hits (g.drop 1 ++ [false])
  | .look l =>
      let hits := ps.map l.holds
      fun g => List.zipWith (fun a b => a && b) hits g
  | .seq a b =>
      let first := a.starts ps
      let second := b.starts ps
      fun g => first (second g)
  | .either a b =>
      let first := a.starts ps
      let second := b.starts ps
      fun g => Goal.or (first g) (second g)
  | .iterate a least most =>
      let step := a.starts ps
      fun g => repeated step least most g
  | .group a => a.starts ps

/-- The first place at which a match of the expression starts. -/
def Node.firstStart? (n : Node) (cs : List Char) : Option Nat :=
  let ps := places cs
  (n.starts ps (ps.map fun _ => true)).findIdx? id

/-! ## Size -/

/-- Whether every match is of no characters. -/
def Node.isZeroWidth : Node → Bool
  | .empty => true
  | .one _ => false
  | .look _ => true
  | .seq a b => a.isZeroWidth && b.isZeroWidth
  | .either a b => a.isZeroWidth && b.isZeroWidth
  | .iterate a _ most => a.isZeroWidth || most == some 0
  | .group a => a.isZeroWidth

/-- The states that a set takes: one when it is within ASCII, else about one for each block. -/
def setSize (s : CharSet) : Nat :=
  if s.within CharSet.ascii then 64 + 8 * s.ranges.length
  else
    let blocks := (s.ranges.flatMap fun r => [r.1 / 64, r.2 / 64]).eraseReps
    let planes := (s.ranges.flatMap fun r => [r.1 / 4096, r.2 / 4096]).eraseReps
    40 * (blocks.length + planes.length + 3) + 8 * s.ranges.length

/-- About the size in bytes of a machine for an expression. -/
def Node.size : Node → Nat
  | .empty => 32
  | .one s =>
      match s.ranges with
      | [(a, b)] => if a = b then 32 * String.utf8ByteSize (String.singleton (Char.ofNat a))
          else setSize s
      | _ => setSize s
  | .look _ => 32
  | .seq a b => a.size + b.size
  | .either a b => 48 + a.size + b.size
  | .group a => 64 + a.size
  | .iterate a least most =>
      let least := if a.isZeroWidth then min least 1 else least
      let most := if a.isZeroWidth then some 1 else most
      match most with
      | none => (max least 1) * a.size + 40
      | some m => least * a.size + (m - least) * (a.size + 40) + 32

end Pattern

/-- A regular expression together with its written form. -/
structure Pattern where
  written : String
  node : Pattern.Node
deriving DecidableEq, Repr, Inhabited

namespace Pattern

/-- The place of a text at which the first match starts. -/
def find? (p : Pattern) (content : String) : Option Nat :=
  p.node.firstStart? content.toList

end Pattern
end Trainer
