import Trainer.Text.Chars

/-!
# Text

The operations of `Trainer.Chars` on `String`, plus joining, padding and decimal text.
-/

namespace Trainer
namespace Text

def trim (s : String) : String :=
  String.ofList (Chars.trim s.toList)

def trimEnd (s : String) : String :=
  String.ofList (Chars.trimEnd s.toList)

def isBlank (s : String) : Bool :=
  Chars.allBlank s.toList

def lines (s : String) : List String :=
  (Chars.lines s.toList).map String.ofList

def words (s : String) : List String :=
  (Chars.words s.toList).map String.ofList

def lower (s : String) : String :=
  String.ofList (Chars.lower s.toList)

def occursIn (needle s : String) : Bool :=
  Chars.occursIn needle.toList s.toList

def replaceAll (needle value s : String) : String :=
  String.ofList (Chars.replaceAll needle.toList value.toList s.toList)

def startsWith (start s : String) : Bool :=
  start.toList.isPrefixOf s.toList

def endsWith (ending s : String) : Bool :=
  ending.toList.isSuffixOf s.toList

/-- The parts joined with a separator between neighbours. -/
def join (sep : String) : List String → String
  | [] => ""
  | [s] => s
  | s :: rest => s ++ sep ++ join sep rest

def times (n : Nat) (s : String) : String :=
  String.ofList (List.replicate n s.toList).flatten

/-- The text followed by as many spaces as reach a width, counted in characters. -/
def padRight (width : Nat) (s : String) : String :=
  s ++ times (width - s.length) " "

/-- A number in decimal with leading zeros up to a width. -/
def padZero (width n : Nat) : String :=
  let digits := toString n
  times (width - digits.length) "0" ++ digits

end Text
end Trainer
