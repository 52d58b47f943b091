import Trainer.Unicode.Category
import Trainer.Unicode.Property

/-!
# Graphemes

What a reader takes for one character may be several: a letter with its marks, a syllable built of
jamo, a flag, a joined pictograph.  `graphemes` cuts a text into such clusters, none of them empty.
-/

namespace Trainer
namespace Unicode

/-- The characters with a property of the table. -/
def propertyChars (name : String) : CharSet :=
  match properties.find? fun x => x.1.contains name with
  | some x => CharSet.ofTable x.2
  | none => CharSet.empty

def emojiModifiers : CharSet := propertyChars "Emoji_Modifier"

def pictographs : CharSet := propertyChars "Extended_Pictographic"

def regional : CharSet := propertyChars "Regional_Indicator"

/-- Characters that belong to the one before them. -/
def extenders : CharSet :=
  CharSet.union (propertyChars "Grapheme_Extend") emojiModifiers

/-- Characters that belong to the one after them. -/
def prepended : CharSet :=
  CharSet.ofRanges [
    (0x600, 0x605), (0x6DD, 0x6DD), (0x70F, 0x70F), (0x890, 0x891), (0x8E2, 0x8E2),
    (0xD4E, 0xD4E), (0x110BD, 0x110BD), (0x110CD, 0x110CD), (0x111C2, 0x111C3),
    (0x113D1, 0x113D1), (0x1193F, 0x1193F), (0x11941, 0x11941), (0x11A84, 0x11A89),
    (0x11D46, 0x11D46), (0x11F02, 0x11F02)]

/-- Spacing marks that stand on their own. -/
def looseMarks : CharSet :=
  CharSet.ofRanges [
    (0x102B, 0x102C), (0x1038, 0x1038), (0x1062, 0x1064), (0x1067, 0x106D), (0x1083, 0x1083),
    (0x1087, 0x108C), (0x108F, 0x108F), (0x109A, 0x109C), (0x1A61, 0x1A61), (0x1A63, 0x1A64),
    (0xAA7B, 0xAA7B), (0xAA7D, 0xAA7D), (0x11720, 0x11721)]

/-- Marks with a width that belong to the character before them. -/
def spacingMarks : CharSet :=
  CharSet.union (CharSet.diff (withCategory (· == "Mc")) looseMarks)
    (CharSet.ofRanges [(0xE33, 0xE33), (0xEB3, 0xEB3)])

/-- Characters that stand between clusters. -/
def breakers : CharSet :=
  CharSet.union (withCategory fun s => s == "Cc" || s == "Cf" || s == "Zl" || s == "Zp")
    (CharSet.inter (withCategory (· == "Cn")) (propertyChars "Default_Ignorable_Code_Point"))

/-- Signs that join two consonants of an Indic script. -/
def linkers : CharSet :=
  CharSet.ofRanges [
    (0x94D, 0x94D), (0x9CD, 0x9CD), (0xACD, 0xACD), (0xB4D, 0xB4D), (0xC4D, 0xC4D),
    (0xD4D, 0xD4D)]

/-- The consonants of the Indic scripts that have such signs. -/
def consonants : CharSet :=
  CharSet.ofRanges [
    (0x915, 0x939), (0x958, 0x95F), (0x978, 0x97F), (0x995, 0x9A8), (0x9AA, 0x9B0),
    (0x9B2, 0x9B2), (0x9B6, 0x9B9), (0x9DC, 0x9DD), (0x9DF, 0x9DF), (0x9F0, 0x9F1),
    (0xA95, 0xAA8), (0xAAA, 0xAB0), (0xAB2, 0xAB3), (0xAB5, 0xAB9), (0xAF9, 0xAF9),
    (0xB15, 0xB28), (0xB2A, 0xB30), (0xB32, 0xB33), (0xB35, 0xB39), (0xB5C, 0xB5D),
    (0xB5F, 0xB5F), (0xB71, 0xB71), (0xC15, 0xC28), (0xC2A, 0xC39), (0xC58, 0xC5A),
    (0xD15, 0xD3A)]

/-- What a character is for the boundaries of clusters. -/
inductive BreakKind where
  | breaker
  | extend
  | joiner
  | regional
  | prepended
  | spacing
  | leadJamo
  | vowelJamo
  | tailJamo
  | openSyllable
  | closedSyllable
  | other
deriving DecidableEq, Repr

/-- The kind of a jamo or of a syllable built of jamo. -/
def hangulKind (n : Nat) : Option BreakKind :=
  if (0x1100 ≤ n ∧ n ≤ 0x115F) ∨ (0xA960 ≤ n ∧ n ≤ 0xA97C) then some .leadJamo
  else if (0x1160 ≤ n ∧ n ≤ 0x11A7) ∨ (0xD7B0 ≤ n ∧ n ≤ 0xD7C6) then some .vowelJamo
  else if (0x11A8 ≤ n ∧ n ≤ 0x11FF) ∨ (0xD7CB ≤ n ∧ n ≤ 0xD7FB) then some .tailJamo
  else if 0xAC00 ≤ n ∧ n ≤ 0xD7A3 then
    some (if (n - 0xAC00) % 28 = 0 then .openSyllable else .closedSyllable)
  else none

def breakKind (c : Char) : BreakKind :=
  let n := c.toNat
  if n < 0x300 then
    if n < 0x20 ∨ (0x7F ≤ n ∧ n < 0xA0) ∨ n = 0xAD then .breaker else .other
  else
    match hangulKind n with
    | some k => k
    | none =>
        if c = '\u200d' then .joiner
        else if extenders.mem c then .extend
        else if prepended.mem c then .prepended
        else if regional.mem c then .regional
        else if breakers.mem c then .breaker
        else if spacingMarks.mem c then .spacing
        else .other

/-- What has been read of a cluster, as far as it matters for its end. -/
structure ClusterState where
  last : BreakKind
  /-- Whether the number of regional indicators at the end is odd. -/
  oddRegional : Bool
  /-- Whether a pictograph with extenders is at the end. -/
  pictograph : Bool
  /-- Whether a joiner follows that pictograph. -/
  joined : Bool
  /-- Whether an Indic consonant with extenders is at the end. -/
  consonant : Bool
  /-- Whether a linker is among those extenders. -/
  linked : Bool
deriving Repr

/-- The state after the first character of a cluster. -/
def ClusterState.first (c : Char) (k : BreakKind) : ClusterState where
  last := k
  oddRegional := k == .regional
  pictograph := pictographs.mem c
  joined := false
  consonant := consonants.mem c
  linked := false

/-- The state after one more character of a cluster. -/
def ClusterState.next (s : ClusterState) (c : Char) (k : BreakKind) : ClusterState :=
  let extends_ := k == .extend || k == .joiner
  { last := k
    oddRegional := k == .regional && !s.oddRegional
    pictograph := pictographs.mem c || (s.pictograph && k == .extend)
    joined := s.pictograph && k == .joiner
    consonant := consonants.mem c || (s.consonant && extends_)
    linked := s.consonant && extends_ && (s.linked || linkers.mem c) }

/-- Whether a character goes on with a cluster. -/
def ClusterState.takes (s : ClusterState) (c : Char) (k : BreakKind) : Bool :=
  if s.last == .breaker || k == .breaker then false
  else if k == .extend || k == .joiner || k == .spacing || s.last == .prepended then true
  else
    (s.last == .leadJamo &&
      (k == .leadJamo || k == .vowelJamo || k == .openSyllable || k == .closedSyllable)) ||
    ((s.last == .openSyllable || s.last == .vowelJamo) && (k == .vowelJamo || k == .tailJamo)) ||
    ((s.last == .closedSyllable || s.last == .tailJamo) && k == .tailJamo) ||
    (s.linked && consonants.mem c) ||
    (s.joined && pictographs.mem c) ||
    (s.oddRegional && k == .regional)

/-- Collects clusters; `acc` holds the characters of the unfinished one in reverse. -/
def graphemesFrom (acc : List Char) (s : ClusterState) : List Char → List (List Char)
  | [] => [acc.reverse]
  | c :: rest =>
      let k := breakKind c
      if s.takes c k then graphemesFrom (c :: acc) (s.next c k) rest
      else acc.reverse :: graphemesFrom [c] (.first c k) rest

def graphemes : List Char → List (List Char)
  | [] => []
  | c :: rest => graphemesFrom [c] (.first c (breakKind c)) rest

end Unicode
end Trainer
