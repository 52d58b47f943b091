import Mathlib
import Trainer.Dashboard
import Trainer.Proofs.Screen.Columns
import Trainer.Proofs.Session.Unsaved

/-!
# The list of exercises

The list has a border of two rows and a head of one, and in the rows that are left it shows the
exercises from an offset on.  The offset goes by the cursor and is computed with a row less than
there is, so in a body of four rows it is the cursor, and otherwise the cursor is in the row above
the last one or higher (`cursor_lt_listOffset_add`).

Every row below the head shows the exercise of its position or is blank (`getElem?_drawList`).  The
row of the cursor is the one that looks selected (`hasLook_framed_listRow_iff`), and as the cursor is
the position of an exercise in every state of a session, there is one such row (`list_shows_cursor`).
-/

namespace Trainer

/-! ## Boxes and tables -/

namespace CellRow

/-- A row has a cell that looks as a style asks for. -/
def HasLook (style : Style) (row : CellRow) : Prop :=
  ∃ cell ∈ row, cell.look = Look.plain.patch style

end CellRow

namespace Screen

variable {width height k : Nat} {title : Line} {inside rows : Screen}

/-- A row in a box. -/
def framed (row : CellRow) : CellRow :=
  Cell.ofChar Style.border '│' :: row ++ [Cell.ofChar Style.border '│']

theorem length_boxed (width : Nat) (title : Line) (inside : Screen) :
    (boxed width title inside).length = inside.length + 2 := by
  simp [boxed]

theorem getElem?_boxed (hk : k < inside.length) :
    (boxed width title inside)[k + 1]? = inside[k]?.map framed := by
  rw [boxed, List.cons_append, List.getElem?_cons_succ, List.getElem?_append_left (by simpa using hk),
    List.getElem?_map]
  rfl

theorem length_toHeight (width height : Nat) (rows : Screen) :
    (toHeight width height rows).length = height := by
  rw [toHeight, List.length_append, List.length_take, List.length_replicate]
  omega

theorem getElem?_toHeight (hk : k < height) (width : Nat) (rows : Screen) :
    (toHeight width height rows)[k]? = some (rows[k]?.getD (CellRow.blank width)) := by
  rw [toHeight]
  by_cases hrow : k < rows.length
  · rw [List.getElem?_append_left (by rw [List.length_take]; omega),
      List.getElem?_take_of_lt hk, List.getElem?_eq_getElem hrow]
    rfl
  · -- The rows are over, and what follows is blank.
    have hlength : (rows.take height).length = min height rows.length := List.length_take
    rw [List.getElem?_append_right (by omega), List.getElem?_replicate,
      if_pos (by omega), List.getElem?_eq_none (by omega)]
    rfl

end Screen

namespace Dashboard

open Screen

variable {s : Session} {e : Exercise} {width height i k : Nat}

/-! ## Which exercises are shown -/

/-- The row of the cursor is not above the first one that is shown. -/
theorem listOffset_le_cursor (s : Session) (height : Nat) : listOffset s height ≤ s.cursor :=
  Nat.sub_le _ _

/-- The exercise under the cursor is among those that there is room for. -/
theorem cursor_lt_listOffset_add (hheight : 4 ≤ height) :
    s.cursor < listOffset s height + (height - 3) := by
  unfold listOffset
  omega

theorem listOffset_of_cursor_zero (h : s.cursor = 0) : listOffset s height = 0 := by
  rw [listOffset, h, Nat.zero_sub]

/-- The row at a place is that of the exercise as many places below the first shown one. -/
theorem getElem?_listRows (s : Session) (height k : Nat) :
    (listRows s height)[k]? = s.catalog.exercises[listOffset s height + k]?.map
      (listRow s (listOffset s height + k)) := by
  rw [listRows, List.getElem?_map, List.getElem?_drop, List.getElem?_zipIdx, Option.map_map,
    Nat.zero_add]
  rfl

/-- The row of a body that is `k` rows below the head, if there is a row there. -/
theorem getElem?_drawList (hk : k + 3 < height) (s : Session) (width : Nat) :
    (drawList s width height)[k + 2]? =
      some (framed ((s.catalog.exercises[listOffset s height + k]?.map fun e =>
        tableRow (width - 2) (listColumns (width - 2)) (listRow s (listOffset s height + k) e)).getD
          (CellRow.blank (width - 2)))) := by
  have hinside : k + 1 < height - 2 := by omega
  rw [drawList, getElem?_boxed (by rw [table, length_toHeight]; exact hinside), table,
    getElem?_toHeight hinside, List.map_cons, List.getElem?_cons_succ, List.getElem?_map,
    getElem?_listRows, Option.map_map]
  rfl

/-- The list fills the height it is given. -/
theorem length_drawList (hheight : 2 ≤ height) (s : Session) (width : Nat) :
    (drawList s width height).length = height := by
  rw [drawList, length_boxed, table, length_toHeight]
  omega

/-! ## The selected row -/

/-- The styles of the rows, and what they look like, tell the row of the cursor from the others. -/
theorem rowStyle_look_iff (s : Session) (i : Nat) (e : Exercise) :
    Look.plain.patch (rowStyle s i e) = Look.plain.patch Style.selected ↔ i = s.cursor := by
  unfold rowStyle
  split
  · rename_i hcursor
    exact iff_of_true rfl hcursor
  · rename_i hcursor
    refine iff_of_false ?_ hcursor
    split
    · decide
    · split
      · decide
      · decide

/-- Neither the frame of a row nor a blank looks selected. -/
theorem hasLook_framed_iff {row : CellRow} :
    (framed row).HasLook Style.selected ↔ row.HasLook Style.selected := by
  have hside : (Cell.ofChar Style.border '│').look ≠ Look.plain.patch Style.selected := by decide
  unfold CellRow.HasLook framed
  constructor
  · rintro ⟨cell, hcell, hlook⟩
    rw [List.cons_append, List.mem_cons, List.mem_append, List.mem_singleton] at hcell
    rcases hcell with rfl | hcell | rfl
    · exact absurd hlook hside
    · exact ⟨cell, hcell, hlook⟩
    · exact absurd hlook hside
  · rintro ⟨cell, hcell, hlook⟩
    exact ⟨cell, List.mem_cons_of_mem _ (List.mem_append_left _ hcell), hlook⟩

/-- The row of the cursor looks selected, and no other row does. -/
theorem hasLook_framed_listRow_iff (hwidth : 3 ≤ width) (s : Session) (i : Nat) (e : Exercise) :
    (framed (tableRow (width - 2) (listColumns (width - 2)) (listRow s i e))).HasLook
      Style.selected ↔ i = s.cursor := by
  rw [hasLook_framed_iff, ← rowStyle_look_iff s i e]
  constructor
  · -- The blanks that wide glyphs cover look plain, so another cell looks selected.
    rintro ⟨cell, hcell, hlook⟩
    rcases look_of_mem_tableRow hcell with hstyle | rfl
    · exact hstyle.symm.trans hlook
    · exact absurd hlook (by decide)
  · intro hsame
    obtain ⟨cell, hcell, hlook⟩ :=
      exists_look_tableRow (Nat.sub_pos_of_lt hwidth) (listColumns (width - 2)) (listRow s i e)
    exact ⟨cell, hcell, hlook.trans hsame⟩

theorem not_hasLook_framed_blank (width : Nat) :
    ¬ (framed (CellRow.blank width)).HasLook Style.selected := by
  rw [hasLook_framed_iff]
  rintro ⟨cell, hcell, hlook⟩
  rw [List.eq_of_mem_replicate hcell] at hlook
  exact absurd hlook (by decide)

/-! ## The list of a session -/

variable {σ : Type} {store : ProgressStore σ} {c : Catalog} {extension : String}

/-- What a row that is `k` rows below the head looks like. -/
theorem hasLook_drawList_iff (hwidth : 3 ≤ width) (hk : k + 3 < height)
    (hcursor : s.cursor < s.catalog.size) {row : CellRow}
    (hrow : (drawList s width height)[k + 2]? = some row) :
    row.HasLook Style.selected ↔ listOffset s height + k = s.cursor := by
  rw [getElem?_drawList hk, Option.some.injEq] at hrow
  subst hrow
  cases he : s.catalog.exercises[listOffset s height + k]? with
  | some e => exact hasLook_framed_listRow_iff hwidth s _ e
  | none =>
      -- The exercises are over, and the cursor is on one of them.
      refine iff_of_false (not_hasLook_framed_blank _) fun heq => ?_
      rw [heq] at he
      exact absurd (List.getElem?_eq_none_iff.1 he) (Nat.not_le.2 hcursor)

/--
In the view of the list, in a body of at least four rows: the exercises are shown from an offset on,
one in each row below the head until they are over, with mark, number, name, category and mode in
their columns (`listColumns`).  The exercise under the cursor is one of them; its row, and no other
one, has the selected style, and looks so where there is a cell between the borders.  The first
exercise is shown when the cursor is on it.
-/
theorem list_shows_cursor (hc : c.exercises ≠ []) (hs : Session.Reachable store c extension s)
    (hview : s.view = .list) (hheight : 4 ≤ height) (width : Nat) :
    (drawBody s width height).length = height ∧
    (listOffset s height ≤ s.cursor ∧ s.cursor < listOffset s height + (height - 3) ∧
      s.cursor < s.catalog.size) ∧
    (∀ k < height - 3, ∀ e, s.catalog.exercises[listOffset s height + k]? = some e →
      ∃ row, (drawBody s width height)[k + 2]? = some (framed row) ∧ row.length = width - 2 ∧
        List.Forall₂ (Shows (rowStyle s (listOffset s height + k) e))
          [icon e, toString (listOffset s height + k + 1), e.name, e.category,
            e.validation.mode.label] (row.columns (listColumns (width - 2)))) ∧
    (∀ k < height - 3, s.catalog.size ≤ listOffset s height + k →
      (drawBody s width height)[k + 2]? = some (framed (CellRow.blank (width - 2)))) ∧
    (∃! k, k < height - 3 ∧ ∃ e, s.catalog.exercises[listOffset s height + k]? = some e ∧
      rowStyle s (listOffset s height + k) e = Style.selected) ∧
    (3 ≤ width → ∀ k < height - 3, ∀ row, (drawBody s width height)[k + 2]? = some row →
      (row.HasLook Style.selected ↔ listOffset s height + k = s.cursor)) ∧
    (s.cursor = 0 → listOffset s height = 0) := by
  have hbody : drawBody s width height = drawList s width height := by
    rw [drawBody, hview]
  have hcursor : s.cursor < s.catalog.size := (hs.inRange hc).cursor_lt
  have hle := listOffset_le_cursor s height
  have hlt := cursor_lt_listOffset_add (s := s) hheight
  rw [hbody]
  refine ⟨length_drawList (by omega) s width, ⟨hle, hlt, hcursor⟩, ?_, ?_, ?_, ?_,
    listOffset_of_cursor_zero⟩
  · intro k hk e he
    refine ⟨_, getElem?_drawList (by omega) s width, ?_, ?_⟩
    · rw [he]
      exact length_drawCells _ _ _ _
    · rw [he]
      exact forall₂_shows (r := listRow s (listOffset s height + k) e) rfl (width - 2)
  · intro k hk hover
    rw [getElem?_drawList (by omega) s width, List.getElem?_eq_none hover]
    rfl
  · -- The row is as far below the head as the cursor is from the offset.
    have hthere : listOffset s height + (s.cursor - listOffset s height) = s.cursor := by omega
    refine ⟨s.cursor - listOffset s height, ⟨by omega, ?_⟩, ?_⟩
    · rw [hthere]
      exact ⟨_, List.getElem?_eq_getElem hcursor, if_pos rfl⟩
    · rintro k ⟨-, e, -, hstyle⟩
      have hhere := (rowStyle_look_iff s (listOffset s height + k) e).1 (by rw [hstyle])
      omega
  · intro hwidth k hk row hrow
    exact hasLook_drawList_iff hwidth (by omega) hcursor hrow

/-! ## The cursor on the second of two exercises -/

/-- The list has been opened, and the cursor has gone down. -/
def listDown : Session :=
  (Session.update EventLoop.refusing (.key .cursorDown) (Session.update EventLoop.refusing
    (.key .toggleList) (Session.ofCatalog EventLoop.twoExercises "sh") ()).1.1 ()).1.1

/-- Where there is room for one exercise, the list has scrolled to the second one, the selected. -/
theorem list_shows_cursor_second :
    Session.Reachable EventLoop.refusing EventLoop.twoExercises "sh" listDown ∧
    listDown.view = .list ∧
    ∃ row, (drawBody listDown 60 4)[2]? = some (framed row) ∧
      (row.drop 3).take 4 =
        Cell.ofChar Style.selected '2' :: List.replicate 3 (Cell.blankIn Style.selected) := by
  have hs : Session.Reachable EventLoop.refusing EventLoop.twoExercises "sh" listDown :=
    .message (.key .cursorDown) () (.message (.key .toggleList) () .new)
  obtain ⟨hview, hoffset⟩ : listDown.view = .list ∧ listOffset listDown 4 = 1 := by decide +kernel
  obtain ⟨e, he, hstyle⟩ : ∃ e, listDown.catalog.exercises[1]? = some e ∧
      rowStyle listDown 1 e = Style.selected := ⟨_, rfl, by decide +kernel⟩
  obtain ⟨row, hrow, hlength, hcolumns⟩ := (list_shows_cursor (by decide) hs hview le_rfl 60).2.2.1
    0 (by decide) e (by rw [hoffset]; exact he)
  refine ⟨hs, hview, row, hrow, ?_⟩
  rw [hoffset, hstyle] at hcolumns
  obtain ⟨-, hnumber, -⟩ := List.forall₂_cons.1 hcolumns |>.imp_right List.forall₂_cons.1
  have htwo : toString (1 + 0 + 1) = "2" := rfl
  have hascii : Text.IsAscii "2" := by simp [Text.IsAscii]
  have hfour : ((row.drop 3).take 4).length = 4 := by
    rw [List.length_take, List.length_drop, hlength]
    rfl
  rw [htwo] at hnumber
  have hcells := hnumber.eq_of_ascii hascii
  rw [hfour] at hcells
  exact hcells

end Dashboard
end Trainer
