import Mathlib
import Trainer.Proofs.Text.Lines
import Trainer.Screen

/-!
# Rows of tables

What can be seen of a row of a table.  The row is cut into its columns, with one cell between them,
and each column shows its text: the glyphs of the text from the left, as far as there is room for
them, and blanks after them (`Screen.Shows`, `Screen.forall₂_shows`).  Printable ASCII characters are
a glyph each, so a column shows an ASCII text character by character (`Screen.Shows.eq_of_ascii`).

The whole row is in its style, but for the blanks that a wide glyph covers
(`Screen.look_of_mem_tableRow`).
-/

namespace Trainer

/-! ## Glyphs -/

namespace Glyph

variable {gs shown : List Glyph} {width : Nat}

@[simp] theorem totalWidth_nil : totalWidth [] = 0 := rfl

@[simp] theorem totalWidth_cons (g : Glyph) (gs : List Glyph) :
    totalWidth (g :: gs) = g.width + totalWidth gs := rfl

/-- The glyphs in front that fit into a width, up to the first one that does not. -/
structure Fits (width : Nat) (gs shown : List Glyph) : Prop where
  totalWidth_le : totalWidth shown ≤ width
  rest : ∃ rest, gs = shown ++ rest ∧ ∀ g ∈ rest.head?, width < totalWidth shown + g.width

theorem Fits.mem (h : Fits width gs shown) {g : Glyph} (hg : g ∈ shown) : g ∈ gs := by
  obtain ⟨rest, rfl, -⟩ := h.rest
  exact List.mem_append_left _ hg

/-- The glyphs that are kept fit the width. -/
theorem fits_fit (width : Nat) (gs : List Glyph) : Fits width gs (fit width gs) := by
  induction gs generalizing width with
  | nil => exact ⟨Nat.zero_le _, [], rfl, by simp⟩
  | cons g gs ih =>
      unfold fit
      split
      · rename_i hle
        obtain ⟨hwidth, rest, hrest, hnext⟩ := ih (width - g.width)
        refine ⟨by rw [totalWidth_cons]; omega, rest, congrArg (g :: ·) hrest, fun x hx => ?_⟩
        have := hnext x hx
        rw [totalWidth_cons]
        omega
      · rename_i hnot
        exact ⟨Nat.zero_le _, g :: gs, rfl, by simpa using hnot⟩

/-- Over cells of a look, a glyph takes its first cell, and the others that it covers are blank. -/
def cells (look : Look) (g : Glyph) : CellRow :=
  if g.width = 0 then []
  else ⟨g.symbol, look.patch g.style⟩ :: List.replicate (g.width - 1) Cell.blank

/-- A glyph takes as many cells as it is wide. -/
theorem length_cells (look : Look) (g : Glyph) : (g.cells look).length = g.width := by
  unfold cells
  split
  · rename_i hzero
    exact hzero.symm
  · rw [List.length_cons, List.length_replicate]
    omega

theorem length_flatMap_cells (look : Look) (gs : List Glyph) :
    (gs.flatMap (cells look)).length = totalWidth gs := by
  induction gs with
  | nil => rfl
  | cons g gs ih => rw [List.flatMap_cons, List.length_append, length_cells, ih, totalWidth_cons]

/-! ### Styles of glyphs -/

theorem style_attachTo {style : Style} {before : List Glyph} {g : Glyph}
    (hbefore : ∀ x ∈ before, x.style = style) (hg : g.style = style) :
    ∀ x ∈ attachTo before g, x.style = style := by
  intro x hx
  unfold attachTo at hx
  split at hx
  · rw [List.mem_singleton.1 hx]
    exact hg
  · rename_i last more
    split at hx
    · rcases List.mem_cons.1 hx with rfl | hx
      · exact hbefore last List.mem_cons_self
      · exact hbefore x (List.mem_cons_of_mem _ hx)
    · rcases List.mem_cons.1 hx with rfl | hx
      · exact hg
      · exact hbefore x hx

/-- Joining glyphs keeps their style. -/
theorem style_attach {style : Style} (hgs : ∀ g ∈ gs, g.style = style) :
    ∀ g ∈ attach gs, g.style = style := by
  have hfold : ∀ before : List Glyph, (∀ x ∈ before, x.style = style) →
      ∀ x ∈ gs.foldl attachTo before, x.style = style := by
    induction gs with
    | nil => exact fun _ h => h
    | cons g gs ih =>
        intro before hbefore
        exact ih (fun x hx => hgs x (List.mem_cons_of_mem _ hx)) _
          (style_attachTo hbefore (hgs g List.mem_cons_self))
  intro g hg
  exact hfold [] (by simp) g (List.mem_reverse.1 hg)

/-- Glyphs that all take a cell stay apart. -/
theorem attach_of_pos (hgs : ∀ g ∈ gs, 0 < g.width) : attach gs = gs := by
  -- The glyphs so far stand in reverse, and all of them take a cell.
  have hfold : ∀ before : List Glyph, (∀ x ∈ before, 0 < x.width) →
      gs.foldl attachTo before = gs.reverse ++ before := by
    induction gs with
    | nil => exact fun _ _ => rfl
    | cons g gs ih =>
        intro before hbefore
        have hg := hgs g List.mem_cons_self
        have hstep : attachTo before g = g :: before := by
          cases before with
          | nil => rfl
          | cons last more =>
              have hlast := hbefore last List.mem_cons_self
              rw [attachTo, if_neg (by omega)]
        rw [List.foldl_cons, hstep, ih (fun x hx => hgs x (List.mem_cons_of_mem _ hx)),
          List.reverse_cons, List.append_assoc, List.singleton_append]
        intro x hx
        rcases List.mem_cons.1 hx with rfl | hx
        · exact hg
        · exact hbefore x hx
  rw [attach, hfold [] (by simp), List.append_nil, List.reverse_reverse]

end Glyph

@[simp] theorem Look.patch_plain (l : Look) : l.patch Style.plain = l := by
  simp [Look.patch, Style.plain]

/-! ## Drawing -/

namespace CellRow

variable {gs : List Glyph} {n : Nat}

/-- Over cells that are all alike, the glyphs come first, and the cells left over behind them. -/
theorem overlay_replicate (h : Glyph.totalWidth gs ≤ n) (cell : Cell) :
    overlay gs (List.replicate n cell) =
      gs.flatMap (Glyph.cells cell.look) ++ List.replicate (n - Glyph.totalWidth gs) cell := by
  induction gs generalizing n with
  | nil => rfl
  | cons g gs ih =>
      rw [Glyph.totalWidth_cons] at h
      cases n with
      | zero =>
          -- No glyph takes a cell, and none is drawn.
          have hnone : ((g :: gs).flatMap (Glyph.cells cell.look)).length = 0 := by
            rw [Glyph.length_flatMap_cells, Glyph.totalWidth_cons]
            omega
          rw [List.length_eq_zero_iff.1 hnone, Nat.zero_sub]
          rfl
      | succ n =>
          rw [List.replicate_succ, overlay, List.flatMap_cons, Glyph.cells, Glyph.totalWidth_cons]
          by_cases hzero : g.width = 0
          · rw [if_pos hzero, if_pos hzero, List.nil_append, hzero, Nat.zero_add,
              ← List.replicate_succ]
            exact ih (by omega)
          · -- Equal cells are left of equal cells, however many the glyph covers.
            have hrest : n + 1 - (g.width + Glyph.totalWidth gs) =
                n - (g.width - 1) - Glyph.totalWidth gs := by omega
            rw [if_neg hzero, if_neg hzero, List.drop_replicate, ih (by omega),
              List.append_assoc, hrest]

/-- Glyphs that are drawn over equal cells: those that fit, and the cells that are left. -/
theorem draw_replicate (gs : List Glyph) (n : Nat) (cell : Cell) :
    draw gs (List.replicate n cell) =
      (Glyph.fit n gs).flatMap (Glyph.cells cell.look) ++
        List.replicate (n - Glyph.totalWidth (Glyph.fit n gs)) cell := by
  rw [draw, List.length_replicate]
  exact overlay_replicate (Glyph.fits_fit n gs).totalWidth_le cell

theorem length_draw_replicate (gs : List Glyph) (n : Nat) (cell : Cell) :
    (draw gs (List.replicate n cell)).length = n := by
  have hfits := (Glyph.fits_fit n gs).totalWidth_le
  rw [draw_replicate, List.length_append, Glyph.length_flatMap_cells, List.length_replicate]
  omega

/-- Two parts of a row of which the first one has all that a width leaves room for. -/
theorem take_drop_of_length_eq_min {front rest : CellRow} {width n : Nat}
    (hfront : front.length = min width n) (hall : front.length + rest.length = n) :
    (front ++ rest).take width = front ∧ (front ++ rest).drop width = rest := by
  rcases le_total width n with hle | hle
  · rw [min_eq_left hle] at hfront
    exact ⟨List.take_left' hfront, List.drop_left' hfront⟩
  · rw [min_eq_right hle] at hfront
    obtain rfl : rest = [] := List.length_eq_zero_iff.1 (by omega)
    rw [List.append_nil]
    exact ⟨List.take_of_length_le (by omega), List.drop_of_length_le (by omega)⟩

/-- The columns of a row, with one cell between two of them. -/
def columns : List Nat → CellRow → List CellRow
  | [], _ => []
  | w :: ws, row => row.take w :: columns ws (row.drop (w + 1))

/-- A row of a first column, the cell after it and what is left, each as far as there is room. -/
theorem columns_append {first gap others : CellRow} {w n : Nat} (ws : List Nat)
    (hfirst : first.length = min w n) (hgap : gap.length = min 1 (n - w))
    (hothers : others.length = n - (w + 1)) :
    columns (w :: ws) (first ++ gap ++ others) = first :: columns ws others := by
  have hafter : (gap ++ others).length = n - w := by
    rw [List.length_append]
    omega
  obtain ⟨htake, hdrop⟩ := take_drop_of_length_eq_min hfirst
    (show first.length + (gap ++ others).length = n by omega)
  obtain ⟨-, hdrop'⟩ := take_drop_of_length_eq_min hgap
    (show gap.length + others.length = n - w by omega)
  rw [columns, List.append_assoc, htake, ← List.drop_drop, hdrop, hdrop']

end CellRow

namespace Screen

/-- The glyphs of a text in a table. -/
def cellGlyphs (text : String) : List Glyph :=
  Glyph.attach (Glyph.ofLine (cellLine text))

/-- Cells in a style show a text: its glyphs from the left that there is room for, then blanks. -/
def Shows (style : Style) (text : String) (row : CellRow) : Prop :=
  ∃ shown, Glyph.Fits row.length (cellGlyphs text) shown ∧
    row = shown.flatMap (Glyph.cells (Look.plain.patch style)) ++
      List.replicate (row.length - Glyph.totalWidth shown) (Cell.blankIn style)

variable {style : Style} {texts : List String} {columns : List Nat} {text : String} {row : CellRow}
  {cell : Cell} {width n : Nat}

/-- Drawn on a blank row, a text shows as far as there is room. -/
theorem shows_draw (style : Style) (text : String) (n : Nat) :
    Shows style text (CellRow.draw (cellGlyphs text) (List.replicate n (Cell.blankIn style))) := by
  refine ⟨Glyph.fit n (cellGlyphs text), ?_, ?_⟩
  · rw [CellRow.length_draw_replicate]
    exact Glyph.fits_fit n _
  · rw [CellRow.length_draw_replicate, CellRow.draw_replicate]
    rfl

@[simp] theorem drawCells_no_columns (texts : List String) (row : CellRow) :
    drawCells [] texts row = row := by
  rw [drawCells]
  exact nofun

@[simp] theorem drawCells_no_texts (columns : List Nat) (row : CellRow) :
    drawCells columns [] row = row := by
  rw [drawCells]
  exact nofun

/-- What is drawn into equal cells: the first column, the cell after it, and the other columns. -/
theorem drawCells_cons_replicate (w : Nat) (ws : List Nat) (text : String) (texts : List String)
    (n : Nat) (cell : Cell) :
    drawCells (w :: ws) (text :: texts) (List.replicate n cell) =
      CellRow.draw (cellGlyphs text) (List.replicate (min w n) cell) ++
        List.replicate (min 1 (n - w)) cell ++
        drawCells ws texts (List.replicate (n - (w + 1)) cell) := by
  rw [drawCells, List.take_replicate, List.drop_replicate, List.take_replicate, List.drop_replicate]
  rfl

theorem length_drawCells (columns : List Nat) (texts : List String) (n : Nat) (cell : Cell) :
    (drawCells columns texts (List.replicate n cell)).length = n := by
  induction columns generalizing texts n with
  | nil => rw [drawCells_no_columns, List.length_replicate]
  | cons w ws ih =>
      cases texts with
      | nil => rw [drawCells_no_texts, List.length_replicate]
      | cons text texts =>
          rw [drawCells_cons_replicate, List.length_append, List.length_append, ih,
            CellRow.length_draw_replicate, List.length_replicate]
          omega

/-- Every column shows its text. -/
theorem forall₂_shows_drawCells (hlength : texts.length = columns.length) (n : Nat) :
    List.Forall₂ (Shows style) texts
      (CellRow.columns columns
        (drawCells columns texts (List.replicate n (Cell.blankIn style)))) := by
  induction columns generalizing texts n with
  | nil =>
      rw [List.length_eq_zero_iff.1 hlength]
      exact .nil
  | cons w ws ih =>
      obtain ⟨text, texts, rfl⟩ := List.exists_cons_of_length_eq_add_one hlength
      rw [drawCells_cons_replicate, CellRow.columns_append ws (CellRow.length_draw_replicate _ _ _)
        List.length_replicate (length_drawCells _ _ _ _)]
      exact .cons (shows_draw style text _) (ih (Nat.succ.inj hlength) _)

/-- Every column of a row of a table shows its text, in the style of the row. -/
theorem forall₂_shows {r : TableRow} (hlength : r.cells.length = columns.length) (width : Nat) :
    List.Forall₂ (Shows r.style) r.cells (CellRow.columns columns (tableRow width columns r)) :=
  forall₂_shows_drawCells hlength width

/-! ### Looks -/

theorem style_cellGlyphs (text : String) : ∀ g ∈ cellGlyphs text, g.style = Style.plain := by
  refine Glyph.style_attach fun g hg => ?_
  simp only [cellLine, Line.plain, Span.plain, Glyph.ofLine, Glyph.ofSpan, List.flatMap_cons,
    List.flatMap_nil, List.append_nil] at hg
  obtain ⟨symbol, -, rfl⟩ := List.mem_map.1 hg
  rfl

/-- A cell of a row that shows a text has the text's look, or is blank. -/
theorem Shows.look_of_mem (h : Shows style text row) (hcell : cell ∈ row) :
    cell.look = Look.plain.patch style ∨ cell = Cell.blank := by
  obtain ⟨shown, hfits, hrow⟩ := h
  rw [hrow] at hcell
  rcases List.mem_append.1 hcell with hcell | hcell
  · obtain ⟨g, hg, hcell⟩ := List.mem_flatMap.1 hcell
    unfold Glyph.cells at hcell
    split at hcell
    · cases hcell
    · rcases List.mem_cons.1 hcell with rfl | hcell
      · left
        simp only [style_cellGlyphs text g (hfits.mem hg), Look.patch_plain]
      · exact .inr (List.eq_of_mem_replicate hcell)
  · rw [List.eq_of_mem_replicate hcell]
    exact .inl rfl

/-- A row that shows a text has the look of its style somewhere. -/
theorem Shows.exists_look (h : Shows style text row) (hne : row ≠ []) :
    ∃ cell ∈ row, cell.look = Look.plain.patch style := by
  -- The first cell is that of a glyph, or a blank in the style, but none that a glyph covers.
  obtain ⟨shown, hfits, hrow⟩ := h
  cases hshown : shown.flatMap (Glyph.cells (Look.plain.patch style)) with
  | nil =>
      rw [hshown, List.nil_append] at hrow
      obtain ⟨cell, hcell⟩ := List.exists_mem_of_ne_nil row hne
      refine ⟨cell, hcell, ?_⟩
      rw [hrow] at hcell
      rw [List.eq_of_mem_replicate hcell]
      rfl
  | cons first others =>
      have hfirst : first ∈ shown.flatMap (Glyph.cells (Look.plain.patch style)) := by
        rw [hshown]
        exact List.mem_cons_self
      obtain ⟨g, hg, hmem⟩ := List.mem_flatMap.1 hfirst
      have hcells : g.cells (Look.plain.patch style) ≠ [] := List.ne_nil_of_mem hmem
      have hwidth : g.width ≠ 0 := fun hzero => hcells (if_pos hzero)
      refine ⟨⟨g.symbol, (Look.plain.patch style).patch g.style⟩, ?_, ?_⟩
      · rw [hrow]
        refine List.mem_append_left _ (List.mem_flatMap.2 ⟨g, hg, ?_⟩)
        rw [Glyph.cells, if_neg hwidth]
        exact List.mem_cons_self
      · simp only [style_cellGlyphs text g (hfits.mem hg), Look.patch_plain]

/-- A cell of a row of columns has the row's look, or is blank. -/
theorem look_of_mem_drawCells
    (hcell : cell ∈ drawCells columns texts (List.replicate n (Cell.blankIn style))) :
    cell.look = Look.plain.patch style ∨ cell = Cell.blank := by
  have hblank {k : Nat} (hmem : cell ∈ List.replicate k (Cell.blankIn style)) :
      cell.look = Look.plain.patch style := by
    rw [List.eq_of_mem_replicate hmem]
    rfl
  induction columns generalizing texts n with
  | nil =>
      rw [drawCells_no_columns] at hcell
      exact .inl (hblank hcell)
  | cons w ws ih =>
      cases texts with
      | nil =>
          rw [drawCells_no_texts] at hcell
          exact .inl (hblank hcell)
      | cons text texts =>
          rw [drawCells_cons_replicate] at hcell
          rcases List.mem_append.1 hcell with hcell | hcell
          · rcases List.mem_append.1 hcell with hcell | hcell
            · exact (shows_draw style text _).look_of_mem hcell
            · exact .inl (hblank hcell)
          · exact ih hcell

/-- A row of a table is in its style, but for the blanks that wide glyphs cover. -/
theorem look_of_mem_tableRow {r : TableRow} (hcell : cell ∈ tableRow width columns r) :
    cell.look = Look.plain.patch r.style ∨ cell = Cell.blank :=
  look_of_mem_drawCells hcell

/-- A row of some width has a cell in the row's own look. -/
theorem exists_look_tableRow (hwidth : 0 < width) (columns : List Nat) (r : TableRow) :
    ∃ cell ∈ tableRow width columns r, cell.look = Look.plain.patch r.style := by
  have hblank {k : Nat} (hk : 0 < k) : Cell.blankIn r.style ∈
      List.replicate k (Cell.blankIn r.style) := List.mem_replicate.2 ⟨by omega, rfl⟩
  rw [tableRow]
  cases columns with
  | nil =>
      rw [drawCells_no_columns]
      exact ⟨Cell.blankIn r.style, hblank hwidth, rfl⟩
  | cons w ws =>
      cases r.cells with
      | nil =>
          rw [drawCells_no_texts]
          exact ⟨Cell.blankIn r.style, hblank hwidth, rfl⟩
      | cons text texts =>
          rw [drawCells_cons_replicate]
          by_cases hw : w = 0
          · -- The first column has no cells, and the one after it keeps what the row has there.
            refine ⟨Cell.blankIn r.style, List.mem_append_left _ (List.mem_append_right _ ?_), rfl⟩
            exact hblank (by omega)
          · have hne : CellRow.draw (cellGlyphs text)
                (List.replicate (min w width) (Cell.blankIn r.style)) ≠ [] := by
              rw [← List.length_pos_iff, CellRow.length_draw_replicate]
              omega
            obtain ⟨cell, hcell, hlook⟩ := (shows_draw r.style text _).exists_look hne
            exact ⟨cell, List.mem_append_left _ (List.mem_append_left _ hcell), hlook⟩

end Screen

/-! ## ASCII -/

/-- Characters of ASCII that can be seen, and the blank. -/
def Text.IsAscii (s : String) : Prop :=
  ∀ c ∈ s.toList, 0x20 ≤ c.toNat ∧ c.toNat < 0x7F

namespace Unicode

variable {c : Char} {cs : List Char}

/-- Printable characters of one byte do not combine with others. -/
theorem breakKind_ascii (h : 0x20 ≤ c.toNat ∧ c.toNat < 0x7F) : breakKind c = .other := by
  have hlatin : c.toNat < 0x300 := by omega
  have hprinted : ¬(c.toNat < 0x20 ∨ (0x7F ≤ c.toNat ∧ c.toNat < 0xA0) ∨ c.toNat = 0xAD) := by
    omega
  simp only [breakKind, if_pos hlatin, if_neg hprinted]

/-- Printable characters of one byte are one cell wide. -/
theorem charWidth_ascii (h : 0x20 ≤ c.toNat ∧ c.toNat < 0x7F) : charWidth c = 1 := by
  have hlatin : c.toNat < 0x300 := by omega
  have hprinted : c.toNat ≠ 0xAD := by omega
  simp only [charWidth, if_pos hlatin, if_neg hprinted]

/-- Characters that nothing joins are a cluster each. -/
theorem graphemes_of_other (h : ∀ c ∈ cs, breakKind c = .other) :
    graphemes cs = cs.map fun c => [c] := by
  -- The cluster that is open has one character, and the next one closes it.
  have hfrom : ∀ (c : Char) (rest : List Char), (∀ x ∈ rest, breakKind x = .other) →
      graphemesFrom [c] (.first c .other) rest = [c] :: rest.map fun x => [x] := by
    intro c rest
    induction rest generalizing c with
    | nil => exact fun _ => rfl
    | cons d rest ih =>
        intro hrest
        have hd := hrest d List.mem_cons_self
        have hapart : (ClusterState.first c .other).takes d .other = false := by
          simp [ClusterState.takes, ClusterState.first]
        rw [graphemesFrom]
        simp only [hd, hapart, Bool.false_eq_true, if_false]
        rw [ih d fun x hx => hrest x (List.mem_cons_of_mem _ hx)]
        rfl
  cases cs with
  | nil => rfl
  | cons c rest =>
      rw [graphemes, h c List.mem_cons_self, hfrom c rest fun x hx => h x (List.mem_cons_of_mem _ hx)]
      rfl

end Unicode

namespace Glyph

/-- A character as a glyph of one cell. -/
def ofChar (c : Char) : Glyph := ⟨[c], 1, Style.plain⟩

/-- A text of characters of one cell is as wide as it is long. -/
theorem totalWidth_map_ofChar (cs : List Char) : totalWidth (cs.map ofChar) = cs.length := by
  induction cs with
  | nil => rfl
  | cons c cs ih =>
      rw [List.map_cons, totalWidth_cons, ih, List.length_cons]
      exact Nat.add_comm 1 _

theorem flatMap_cells_ofChar (style : Style) (cs : List Char) :
    (cs.map ofChar).flatMap (cells (Look.plain.patch style)) = cs.map (Cell.ofChar style) := by
  induction cs with
  | nil => rfl
  | cons c cs ih =>
      rw [List.map_cons, List.flatMap_cons, ih]
      simp [cells, ofChar, Cell.ofChar]

end Glyph

namespace Screen

variable {style : Style} {text : String} {row : CellRow}

/-- A text without a newline is its own first line. -/
theorem cellLine_of_not_mem (h : '\n' ∉ text.toList) : cellLine text = Line.plain text := by
  rw [cellLine]
  congr 1
  by_cases hempty : text = ""
  · rw [hempty]
    rfl
  · have hne : text.toList ≠ [] := by simpa using hempty
    have hhead := Chars.head?_lines h (.last hne)
    rw [List.append_nil] at hhead
    rw [Text.lines, List.head?_map, hhead]
    simp

/-- An ASCII text has a glyph of one cell for every character. -/
theorem cellGlyphs_ascii (h : Text.IsAscii text) :
    cellGlyphs text = text.toList.map Glyph.ofChar := by
  have hline : '\n' ∉ text.toList := fun hmem => absurd (h _ hmem) (by decide)
  have hclusters : Unicode.graphemes text.toList = text.toList.map fun c => [c] :=
    Unicode.graphemes_of_other fun c hc => Unicode.breakKind_ascii (h c hc)
  have hkept : ∀ g ∈ text.toList.map (fun c => [c]), (!g.any Glyph.isControl) = true := by
    intro g hg
    obtain ⟨c, hc, rfl⟩ := List.mem_map.1 hg
    have hprinted := h c hc
    simp only [List.any_cons, List.any_nil, Bool.or_false, Bool.not_eq_true', Glyph.isControl]
    simp only [Bool.or_eq_false_iff, Bool.and_eq_false_iff, decide_eq_false_iff_not]
    omega
  have hglyphs : Glyph.ofLine (Line.plain text) = text.toList.map Glyph.ofChar := by
    simp only [Line.plain, Span.plain, Glyph.ofLine, Glyph.ofSpan, List.flatMap_cons,
      List.flatMap_nil, List.append_nil, hclusters, List.filter_eq_self.2 hkept, List.map_map]
    refine List.map_congr_left fun c hc => ?_
    have hwidth : Unicode.graphemeWidth [c] = 1 := Unicode.charWidth_ascii (h c hc)
    simp only [Function.comp, Glyph.ofGrapheme, Glyph.ofChar, hwidth]
  rw [cellGlyphs, cellLine_of_not_mem hline, hglyphs]
  refine Glyph.attach_of_pos fun g hg => ?_
  obtain ⟨c, -, rfl⟩ := List.mem_map.1 hg
  exact Nat.one_pos

/-- A row that shows an ASCII text has a cell for every character that there is room for. -/
theorem Shows.eq_of_ascii (h : Shows style text row) (hascii : Text.IsAscii text) :
    row = (text.toList.take row.length).map (Cell.ofChar style) ++
      List.replicate (row.length - text.length) (Cell.blankIn style) := by
  obtain ⟨shown, hfits, hrow⟩ := h
  rw [cellGlyphs_ascii hascii] at hfits
  obtain ⟨rest, hrest, hnext⟩ := hfits.rest
  obtain ⟨front, back, htext, rfl, rfl⟩ := List.map_eq_append_iff.1 hrest
  have hle := hfits.totalWidth_le
  rw [Glyph.totalWidth_map_ofChar] at hle hnext hrow
  rw [Glyph.flatMap_cells_ofChar] at hrow
  have hlength : text.length = front.length + back.length := by
    rw [← String.length_toList, htext, List.length_append]
  -- Either nothing is left of the text, or there is no room for the next character.
  cases back with
  | nil =>
      rw [htext, List.append_nil, List.take_of_length_le hle, hlength, List.length_nil,
        Nat.add_zero]
      exact hrow
  | cons c back =>
      have hfull : front.length = row.length := by
        have hroom : row.length < front.length + 1 := hnext _ rfl
        omega
      rw [htext, ← hfull, List.take_left, hlength]
      rw [← hfull, Nat.sub_self] at hrow
      rw [Nat.sub_eq_zero_of_le (Nat.le_add_right _ _)]
      exact hrow

end Screen
end Trainer
