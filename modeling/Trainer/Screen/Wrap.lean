import Trainer.Screen.Glyph

/-!
# Word wrap

Breaks a line of glyphs into rows of a width.  A row in progress consists of what is settled
(`line`), the blanks after it, and the word after those; blanks and word are settled when the word
ends, or when there is nothing settled yet and they would not fit.
-/

namespace Trainer
namespace Wrap

/-- Where the reading of a line stands. -/
structure State where
  /-- The rows that are complete, the latest first. -/
  rows : List (List Glyph)
  line : List Glyph
  blanks : List Glyph
  word : List Glyph
  /-- Whether the last glyph was part of a word. -/
  inWord : Bool

def State.initial : State := ⟨[], [], [], [], false⟩

/-- Whether blanks and word have to be settled before a glyph is taken. -/
def mustSettle (trim : Bool) (width : Nat) (s : State) (g : Glyph) : Bool :=
  (s.inWord && g.isBlank) ||
    (s.line.isEmpty &&
      if trim then
        decide (width < Glyph.totalWidth s.word + g.width) ||
          decide (width < Glyph.totalWidth s.blanks + g.width)
      else
        decide (width < Glyph.totalWidth s.word + Glyph.totalWidth s.blanks + g.width))

/-- Settles blanks and word; blanks at the start of a row do not count when rows are trimmed. -/
def settle (trim : Bool) (s : State) : State :=
  let kept := if s.line.isEmpty && trim then [] else s.blanks
  { s with line := s.line ++ kept ++ s.word, blanks := [], word := [] }

/-- Whether the row has to end before a glyph is taken. -/
def isFull (width : Nat) (s : State) (g : Glyph) : Bool :=
  let settled := Glyph.totalWidth s.line
  decide (width ≤ settled) ||
    (decide (0 < g.width) &&
      decide (width ≤ settled + Glyph.totalWidth s.blanks + Glyph.totalWidth s.word))

/-- Drops the blanks in front that the rest of a row has room for. -/
def dropBlanks : Nat → List Glyph → List Glyph
  | _, [] => []
  | room, g :: rest => if g.width ≤ room then dropBlanks (room - g.width) rest else g :: rest

def breakRow (width : Nat) (s : State) : State :=
  { s with
    rows := s.line :: s.rows
    line := []
    blanks := dropBlanks (width - Glyph.totalWidth s.line) s.blanks }

/-- Adds a glyph to the blanks or to the word. -/
def push (s : State) (g : Glyph) : State :=
  if g.isBlank then { s with blanks := s.blanks ++ [g], inWord := false }
  else { s with word := s.word ++ [g], inWord := true }

/-- Takes a glyph; one that is wider than a row is left out. -/
def step (trim : Bool) (width : Nat) (s : State) (g : Glyph) : State :=
  if width < g.width then s
  else
    let s := if mustSettle trim width s g then settle trim s else s
    if isFull width s g then
      let s := breakRow width s
      -- The blank at which a row ends is not the start of the next row.
      if g.isBlank && s.blanks.isEmpty then s else push s g
    else push s g

def finish (trim : Bool) (s : State) : List (List Glyph) :=
  let rows :=
    if trim && s.line.isEmpty && s.word.isEmpty && !s.blanks.isEmpty then [] :: s.rows else s.rows
  let line := (settle trim s).line
  let rows := if line.isEmpty then rows else line :: rows
  if rows.isEmpty then [[]] else rows.reverse

def wrap (trim : Bool) (width : Nat) (gs : List Glyph) : List (List Glyph) :=
  finish trim (gs.foldl (step trim width) State.initial)

end Wrap
end Trainer
