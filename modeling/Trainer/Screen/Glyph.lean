import Trainer.Number
import Trainer.Unicode.Width
import Trainer.Screen.Style

/-!
# Glyphs

Styled text as the glyphs that are drawn, each with the number of cells it takes.  Control
characters are not drawn.
-/

namespace Trainer

/-- A piece of text of one style. -/
structure Span where
  text : String
  style : Style
deriving DecidableEq, Repr, Inhabited

/-- A piece of text that asks for nothing. -/
def Span.plain (text : String) : Span := ⟨text, Style.plain⟩

abbrev Line := List Span

def Line.of (text : String) (style : Style) : Line := [⟨text, style⟩]

/-- A line that asks for nothing. -/
def Line.plain (text : String) : Line := [Span.plain text]

/-- What is drawn at one place. -/
structure Glyph where
  symbol : List Char
  width : Nat
  style : Style
deriving DecidableEq, Repr, Inhabited

namespace Glyph

def isControl (c : Char) : Bool :=
  c.toNat < 0x20 || (0x7F ≤ c.toNat && c.toNat < 0xA0)

def ofGrapheme (style : Style) (g : List Char) : Glyph :=
  ⟨g, Unicode.graphemeWidth g, style⟩

def ofSpan (s : Span) : List Glyph :=
  ((Unicode.graphemes s.text.toList).filter fun g => !g.any isControl).map (ofGrapheme s.style)

def ofLine (l : Line) : List Glyph :=
  l.flatMap ofSpan

def totalWidth (gs : List Glyph) : Nat :=
  sumOf (gs.map (·.width))

/-- A glyph at which a line may be broken: blanks, but not those that hold words together. -/
def isBlank (g : Glyph) : Bool :=
  g.symbol == ['\u200b'] || (g.symbol.all Chars.isBlank && g.symbol != ['\u00a0'])

/-- The glyphs in front that fit into a width. -/
def fit (width : Nat) : List Glyph → List Glyph
  | [] => []
  | g :: rest => if g.width ≤ width then g :: fit (width - g.width) rest else []

/-- Adds a glyph to those before it, of which the latest is the first. -/
def attachTo : List Glyph → Glyph → List Glyph
  | [], g => [g]
  | last :: more, g =>
      if last.width = 0 ∨ g.width = 0 then
        { last with symbol := last.symbol ++ g.symbol, width := max last.width g.width } :: more
      else g :: last :: more

/-- Joins each glyph that takes no cell to the one before it, or in front to the one after it. -/
def attach (gs : List Glyph) : List Glyph :=
  (gs.foldl attachTo []).reverse

end Glyph
end Trainer
