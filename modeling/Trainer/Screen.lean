import Trainer.Screen.Wrap

/-!
# The screen

A screen is a list of rows of cells.  Everything that is drawn gives rows of its own size: a
paragraph, a table, a box with a title around other rows.
-/

namespace Trainer

structure Cell where
  symbol : List Char
  look : Look
deriving DecidableEq, Repr, Inhabited

namespace Cell

def blank : Cell := ⟨[' '], Look.plain⟩

def blankIn (s : Style) : Cell := ⟨[' '], Look.plain.patch s⟩

def ofChar (s : Style) (c : Char) : Cell := ⟨[c], Look.plain.patch s⟩

end Cell

abbrev CellRow := List Cell

namespace CellRow

def blank (width : Nat) : CellRow := List.replicate width Cell.blank

/-- Draws glyphs over a row; the cells that a wide glyph covers besides its first are blank. -/
def overlay : List Glyph → CellRow → CellRow
  | [], row => row
  | _ :: _, [] => []
  | g :: gs, cell :: rest =>
      if g.width = 0 then overlay gs (cell :: rest)
      else
        ⟨g.symbol, cell.look.patch g.style⟩ :: List.replicate (g.width - 1) Cell.blank ++
          overlay gs (rest.drop (g.width - 1))

/-- Draws the glyphs that fit. -/
def draw (gs : List Glyph) (row : CellRow) : CellRow :=
  overlay (Glyph.fit row.length gs) row

def ofGlyphs (width : Nat) (gs : List Glyph) : CellRow :=
  draw gs (blank width)

/-- The text of a row without the blanks at its end. -/
def text (row : CellRow) : String :=
  String.ofList ((row.flatMap (·.symbol)).reverse.dropWhile (· == ' ')).reverse

/-- Cells next to each other that look the same, other than plain. -/
structure Run where
  first : Nat
  last : Nat
  look : Look
deriving DecidableEq, Repr

/-- Adds a cell to the runs before it, of which the latest is the first. -/
def addToRuns (runs : List Run) (i : Nat) (look : Look) : List Run :=
  if look = Look.plain then runs
  else
    match runs with
    | [] => [⟨i, i, look⟩]
    | r :: rest =>
        if r.last + 1 = i ∧ r.look = look then { r with last := i } :: rest
        else ⟨i, i, look⟩ :: r :: rest

def runs (row : CellRow) : List Run :=
  (row.zipIdx.foldl (fun acc x => addToRuns acc x.2 x.1.look) []).reverse

end CellRow

abbrev Screen := List CellRow

namespace Screen

/-- Cuts rows to a height, or fills up with blank rows. -/
def toHeight (width height : Nat) (rows : Screen) : Screen :=
  rows.take height ++ List.replicate (height - rows.length) (CellRow.blank width)

/-- Lines of which each has one row, cut at the right edge. -/
def cutLines (width height : Nat) (lines : List Line) : Screen :=
  toHeight width height (lines.map fun l => CellRow.ofGlyphs width (Glyph.ofLine l))

def wrappedLines (trim : Bool) (width height : Nat) (lines : List Line) : Screen :=
  toHeight width height
    ((lines.flatMap fun l => Wrap.wrap trim width (Glyph.ofLine l)).map (CellRow.ofGlyphs width))

/-! ## Boxes -/

def upperBorder (width : Nat) (title : Line) : CellRow :=
  let edge := Cell.ofChar Style.border
  edge '┌' ::
    CellRow.draw (Glyph.attach (Glyph.ofLine title)) (List.replicate (width - 2) (edge '─')) ++
      [edge '┐']

def lowerBorder (width : Nat) : CellRow :=
  let edge := Cell.ofChar Style.border
  edge '└' :: List.replicate (width - 2) (edge '─') ++ [edge '┘']

/-- A box around rows that are two cells narrower. -/
def boxed (width : Nat) (title : Line) (inside : Screen) : Screen :=
  let side := Cell.ofChar Style.border '│'
  upperBorder width title :: inside.map (fun row => side :: row ++ [side]) ++ [lowerBorder width]

/-! ## Tables -/

/-- A row of a table: the texts of its cells, and a style for the whole row. -/
structure TableRow where
  cells : List String
  style : Style
deriving DecidableEq, Repr, Inhabited

/-- The first line of a cell's text. -/
def cellLine (s : String) : Line :=
  Line.plain ((Text.lines s).head?.getD "")

/-- Draws the texts of cells into columns with one blank between them. -/
def drawCells : List Nat → List String → CellRow → CellRow
  | w :: ws, s :: ss, row =>
      -- The cell between two columns keeps what the row has there.
      CellRow.draw (Glyph.attach (Glyph.ofLine (cellLine s))) (row.take w) ++
        (row.drop w).take 1 ++ drawCells ws ss (row.drop (w + 1))
  | _, _, row => row

/-- A row of a table, in its style over the whole width. -/
def tableRow (width : Nat) (columns : List Nat) (r : TableRow) : CellRow :=
  drawCells columns r.cells (List.replicate width (Cell.blankIn r.style))

/-- A table: its head, and as many rows as there is room for. -/
def table (width height : Nat) (columns : List Nat) (head : TableRow) (rows : List TableRow) :
    Screen :=
  toHeight width height ((head :: rows).map (tableRow width columns))

end Screen
end Trainer
