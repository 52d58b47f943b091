/-!
# Styles

What a cell of the screen looks like (`Look`), and what a piece of text asks for (`Style`); where a
style asks for nothing, the cell keeps what it has.
-/

namespace Trainer

inductive Color where
  | reset
  | black
  | red
  | green
  | yellow
  | cyan
  | gray
  | darkGray
  | lightYellow
deriving DecidableEq, Repr, Inhabited

def Color.label : Color → String
  | .reset => "Reset"
  | .black => "Black"
  | .red => "Red"
  | .green => "Green"
  | .yellow => "Yellow"
  | .cyan => "Cyan"
  | .gray => "Gray"
  | .darkGray => "DarkGray"
  | .lightYellow => "LightYellow"

/-- What a piece of text asks for. -/
structure Style where
  fg : Option Color
  bg : Option Color
  bold : Bool
deriving DecidableEq, Repr, Inhabited

namespace Style

def plain : Style := ⟨none, none, false⟩

def colored (c : Color) : Style := ⟨some c, none, false⟩

/-! ## The palette -/

def header : Style := ⟨some .cyan, none, true⟩

def dimmed : Style := colored .darkGray

def border : Style := colored .darkGray

def passed : Style := colored .green

def failed : Style := colored .red

def running : Style := colored .yellow

def pending : Style := colored .gray

def warning : Style := colored .lightYellow

def key : Style := ⟨none, none, true⟩

def selected : Style := ⟨some .black, some .cyan, true⟩

end Style

/-- What a cell looks like. -/
structure Look where
  fg : Color
  bg : Color
  bold : Bool
deriving DecidableEq, Repr, Inhabited

namespace Look

def plain : Look := ⟨.reset, .reset, false⟩

/-- The look after text of a style was drawn. -/
def patch (l : Look) (s : Style) : Look :=
  ⟨s.fg.getD l.fg, s.bg.getD l.bg, l.bold || s.bold⟩

end Look
end Trainer
