import Mathlib
import Trainer.Proofs.Marker

/-!
# The line of a place

Every place of a text lies in one of its lines, or behind the last newline, where the next line would
begin (`Chars.LiesIn`, `Chars.Numbered`).  The characters that end a line are part of it here.

The lines are counted as they are listed, and the number of a place's line is one more than the
newlines in front of the place (`Chars.numbered_iff`).  It is the number under which the scan for
markers lists that line (`Marker.mem_scan_iff_of_numbered`).
-/

namespace Trainer
namespace Chars

/--
A place lies in the line that stands behind `before`: at one of its characters or of those that end
it, or, where nothing ends the line, behind it.
-/
inductive LiesIn (cs before line : List Char) (p : Nat) : Prop where
  | ended {stop after : List Char} : LineAt cs before line →
      cs = before ++ (line ++ (stop ++ after)) → (stop = ['\n'] ∨ stop = ['\r', '\n']) →
      before.length ≤ p → p < before.length + (line.length + stop.length) →
      LiesIn cs before line p
  | unended : LineAt cs before line → cs = before ++ line → before.length ≤ p → p ≤ cs.length →
      LiesIn cs before line p

/--
The number of the line in which a place lies, the lines counted from one as they are listed.  Behind
the last newline begins a line that is not listed any more.
-/
inductive Numbered (cs : List Char) (p : Nat) : Nat → Prop where
  | line {before line : List Char} : LiesIn cs before line p →
      Numbered cs p ((lines before).length + 1)
  | behind : Closed cs → p = cs.length → Numbered cs p ((lines cs).length + 1)

variable {cs before line init rest : List Char} {p n : Nat}

theorem LiesIn.lineAt (h : LiesIn cs before line p) : LineAt cs before line := by
  cases h with
  | ended hline => exact hline
  | unended hline => exact hline

/-! ## The newlines in front of a place -/

/-- A closed text has as many lines as newlines. -/
theorem length_lines_of_closed (h : Closed before) :
    (lines before).length = before.count '\n' :=
  (linesFrom_append h [] [] fun _ => rfl).2

/-- Between the beginning of a line and a place in it there is no newline. -/
theorem exists_take_eq (hcs : cs = before ++ (init ++ rest)) (hinit : '\n' ∉ init)
    (hstart : before.length ≤ p) (hend : p ≤ before.length + init.length) :
    ∃ left, cs.take p = before ++ left ∧ '\n' ∉ left := by
  obtain ⟨q, rfl⟩ := Nat.exists_eq_add_of_le hstart
  refine ⟨init.take q, ?_, fun hmem => hinit (List.mem_of_mem_take hmem)⟩
  rw [hcs, List.take_length_add_append,
    List.take_append_of_le_length (Nat.le_of_add_le_add_left hend)]

/-- Between the start of its line and a place there is no newline. -/
theorem LiesIn.exists_take_eq (h : LiesIn cs before line p) :
    ∃ left, cs.take p = before ++ left ∧ '\n' ∉ left := by
  cases h with
  | @ended stop after hline hcs hstop hstart hend =>
      rcases hstop with rfl | rfl
      · exact Chars.exists_take_eq hcs hline.unbroken hstart (Nat.le_of_lt_succ hend)
      · -- The carriage return is a place of the line as well.
        have hinit : '\n' ∉ line ++ ['\r'] := by simp [hline.unbroken]
        have hcs' : cs = before ++ ((line ++ ['\r']) ++ '\n' :: after) := by simpa using hcs
        apply Chars.exists_take_eq hcs' hinit hstart
        rw [List.length_append]
        exact Nat.le_of_lt_succ hend
  | unended hline hcs hstart hend =>
      have hcs' : cs = before ++ (line ++ []) := by rw [List.append_nil, hcs]
      apply Chars.exists_take_eq hcs' hline.unbroken hstart
      rwa [hcs, List.length_append] at hend

/-- The number of a line counts the newlines before it. -/
theorem Numbered.eq (h : Numbered cs p n) : n = (cs.take p).count '\n' + 1 := by
  cases h with
  | line hlies =>
      obtain ⟨left, htake, hleft⟩ := hlies.exists_take_eq
      rw [htake, List.count_append, List.count_eq_zero_of_not_mem hleft,
        length_lines_of_closed hlies.lineAt.closed, Nat.add_zero]
  | behind hclosed hp => rw [hp, List.take_length, length_lines_of_closed hclosed]

/-! ## Every place has a line -/

/-- A text cut behind its last newline. -/
theorem exists_closed_append (xs : List Char) :
    ∃ before left, xs = before ++ left ∧ Closed before ∧ '\n' ∉ left := by
  induction xs using List.reverseRecOn with
  | nil => exact ⟨[], [], rfl, .inl rfl, List.not_mem_nil⟩
  | append_singleton xs c ih =>
      by_cases hc : c = '\n'
      · subst hc
        exact ⟨xs ++ ['\n'], [], (List.append_nil _).symm, .inr (by simp), List.not_mem_nil⟩
      · obtain ⟨before, left, rfl, hclosed, hleft⟩ := ih
        refine ⟨before, left ++ [c], List.append_assoc _ _ _, hclosed, ?_⟩
        simp [hleft, Ne.symm hc]

/-- A text cut in front of its first newline. -/
theorem exists_unbroken_append (xs : List Char) :
    ∃ right rest, xs = right ++ rest ∧ '\n' ∉ right ∧ (rest = [] ∨ ∃ after, rest = '\n' :: after) := by
  induction xs with
  | nil => exact ⟨[], [], rfl, List.not_mem_nil, .inl rfl⟩
  | cons c xs ih =>
      by_cases hc : c = '\n'
      · subst hc
        exact ⟨[], '\n' :: xs, rfl, List.not_mem_nil, .inr ⟨xs, rfl⟩⟩
      · obtain ⟨right, rest, rfl, hright, hrest⟩ := ih
        exact ⟨c :: right, rest, rfl, by simp [hright, Ne.symm hc], hrest⟩

/-- What stands between two newlines, or behind the last one, is a line unless it is empty there. -/
theorem exists_liesIn (hcs : cs = before ++ (init ++ rest)) (hclosed : Closed before)
    (hinit : '\n' ∉ init) (hrest : rest = [] ∨ ∃ after, rest = '\n' :: after)
    (hstart : before.length ≤ p) (hend : p ≤ before.length + init.length) :
    (∃ line, LiesIn cs before line p) ∨ init = [] ∧ rest = [] := by
  rcases hrest with rfl | ⟨after, rfl⟩
  · by_cases hempty : init = []
    · exact .inr ⟨hempty, rfl⟩
    · rw [List.append_nil] at hcs
      have hline : LineAt cs before init :=
        ⟨hclosed, hinit, [], by rw [List.append_nil, hcs], .last hempty⟩
      refine .inl ⟨init, .unended hline hcs hstart ?_⟩
      rwa [hcs, List.length_append]
  · by_cases hreturn : init.getLast? = some '\r'
    · -- The line ends in front of the carriage return.
      obtain ⟨line, rfl⟩ := List.getLast?_eq_some_iff.1 hreturn
      have hcs' : cs = before ++ (line ++ ('\r' :: '\n' :: after)) := by simpa using hcs
      have hline : LineAt cs before line :=
        ⟨hclosed, fun hmem => hinit (List.mem_append_left _ hmem), _, hcs', .returned⟩
      refine .inl ⟨line, .ended hline hcs' (.inr rfl) hstart ?_⟩
      rw [List.length_append] at hend
      exact Nat.lt_succ_of_le hend
    · have hline : LineAt cs before init := ⟨hclosed, hinit, _, hcs, .newline hreturn⟩
      exact .inl ⟨init, .ended hline hcs (.inl rfl) hstart (Nat.lt_succ_of_le hend)⟩

/-- Every place of a text has a line number. -/
theorem exists_numbered (hp : p ≤ cs.length) : ∃ n, Numbered cs p n := by
  obtain ⟨before, left, htake, hclosed, hleft⟩ := exists_closed_append (cs.take p)
  obtain ⟨right, rest, hdrop, hright, hrest⟩ := exists_unbroken_append (cs.drop p)
  have hlength : before.length + left.length = p := by
    rw [← List.length_append, ← htake, List.length_take, Nat.min_eq_left hp]
  have hcs : cs = before ++ ((left ++ right) ++ rest) := by
    calc cs = cs.take p ++ cs.drop p := (List.take_append_drop p cs).symm
      _ = before ++ ((left ++ right) ++ rest) := by rw [htake, hdrop]; simp
  have hinit : '\n' ∉ left ++ right := by simp [hleft, hright]
  have hend : p ≤ before.length + (left ++ right).length := by
    rw [List.length_append]
    omega
  rcases exists_liesIn hcs hclosed hinit hrest (by omega) hend with ⟨line, hlies⟩ | ⟨hempty, rfl⟩
  · exact ⟨_, .line hlies⟩
  · -- Nothing stands behind the last newline, and the place is there.
    rw [hempty, List.append_nil, List.append_nil] at hcs
    subst hcs
    exact ⟨_, .behind hclosed (le_antisymm hp (Nat.le.intro hlength))⟩

/-- The number of a place's line is one more than the newlines in front of the place. -/
theorem numbered_iff (hp : p ≤ cs.length) : Numbered cs p n ↔ n = (cs.take p).count '\n' + 1 := by
  refine ⟨Numbered.eq, ?_⟩
  rintro rfl
  obtain ⟨n, hn⟩ := exists_numbered hp
  rwa [← hn.eq]

/-- A line is listed in the place of its number. -/
theorem LiesIn.getElem?_lines (h : LiesIn cs before line p) :
    (lines cs)[(lines before).length]? = some line :=
  getElem?_lines_iff.2 ⟨before, h.lineAt, (length_lines_of_closed h.lineAt.closed).symm⟩

end Chars

/-- The scan lists the line in which a place lies, if it has the word, under its number. -/
theorem Marker.mem_scan_iff_of_numbered {content : String} {p n : Nat}
    (h : Chars.Numbered content.toList p n) (text : String) :
    ⟨n, text⟩ ∈ scan content ↔ ∃ before line, Chars.LiesIn content.toList before line p ∧
      inLine line = true ∧ text = String.ofList (Chars.trim line) := by
  rw [scan, mem_scanFrom_iff]
  constructor
  · rintro ⟨i, line, hi, hin, hmarker⟩
    obtain ⟨hn, rfl⟩ := Marker.mk.inj hmarker
    cases h with
    | @line before line' hlies =>
        have hindex : (Chars.lines before).length = i := by omega
        have hline := hlies.getElem?_lines
        rw [hindex, hi] at hline
        cases hline
        exact ⟨before, line, hlies, hin, rfl⟩
    | behind =>
        have hindex : i = (Chars.lines content.toList).length := by omega
        rw [hindex, List.getElem?_eq_none le_rfl] at hi
        cases hi
  · rintro ⟨before, line, hlies, hin, rfl⟩
    have hn : n = (Chars.lines before).length + 1 :=
      h.eq.trans (Chars.Numbered.line hlies).eq.symm
    exact ⟨_, line, hlies.getElem?_lines, hin, by rw [hn, Nat.add_comm]⟩

end Trainer
