import Trainer.Text

/-!
# Scaffold markers

An exercise ships with `TODO` markers where the learner has to fill something in.  `Marker.scan`
finds the lines that still hold one, in any letter case.
-/

namespace Trainer

/-- A marker left in a source text. -/
structure Marker where
  /-- The number of the line, counted from one. -/
  line : Nat
  /-- The line without blanks at its ends. -/
  text : String
deriving DecidableEq, Repr, Inhabited

namespace Marker

/-- The word that is looked for, in lower case. -/
def word : List Char := ['t', 'o', 'd', 'o']

/-- Whether a line holds the word in any letter case. -/
def inLine (line : List Char) : Bool :=
  Chars.occursIn word (Chars.lower line)

/-- The markers in lines of which the first has the number `n`. -/
def scanFrom (n : Nat) : List (List Char) → List Marker
  | [] => []
  | line :: rest =>
      if inLine line then ⟨n, String.ofList (Chars.trim line)⟩ :: scanFrom (n + 1) rest
      else scanFrom (n + 1) rest

/-- The markers in a source text, from top to bottom. -/
def scan (content : String) : List Marker :=
  scanFrom 1 (Chars.lines content.toList)

def describeOne (m : Marker) : String :=
  "\n  line " ++ toString m.line ++ ": " ++ m.text

/-- What the learner is told about the markers that are left. -/
def describe (markers : List Marker) : String :=
  "Remove the " ++ toString markers.length ++
    " scaffold marker(s) before this exercise counts as done:" ++
    String.join (markers.map describeOne)

end Marker
end Trainer
