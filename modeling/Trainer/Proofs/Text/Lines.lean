import Mathlib
import Trainer.Text

/-!
# The lines of a text

A text is its lines with their ends: each ends in a newline, which a carriage return may precede,
and only the last one may go without.  `Chars.LinesOf` says so, and `Chars.lines` finds the lines
(`Chars.linesOf_lines`).  The number of a line is that of the newlines before it
(`Chars.getElem?_lines_iff`).
-/

namespace Trainer
namespace Chars

/-- A text falls into lines. -/
inductive LinesOf : List Char → List (List Char) → Prop where
  | nil : LinesOf [] []
  /-- What follows the last newline is a line unless it is empty. -/
  | last {line : List Char} : line ≠ [] → '\n' ∉ line → LinesOf line [line]
  | newline {line rest : List Char} {lines : List (List Char)} : '\n' ∉ line →
      line.getLast? ≠ some '\r' → LinesOf rest lines →
      LinesOf (line ++ '\n' :: rest) (line :: lines)
  /-- A carriage return in front of the newline is no part of the line. -/
  | returned {line rest : List Char} {lines : List (List Char)} : '\n' ∉ line →
      LinesOf rest lines → LinesOf (line ++ '\r' :: '\n' :: rest) (line :: lines)

/-- An unfinished line is finished by what follows it. -/
theorem linesOf_linesFrom (cs : List Char) : ∀ acc : List Char, '\n' ∉ acc →
    LinesOf (acc.reverse ++ cs) (linesFrom acc cs) := by
  induction cs with
  | nil =>
      intro acc hacc
      cases acc with
      | nil => exact .nil
      | cons c acc =>
          rw [List.append_nil, linesFrom, if_neg (by simp)]
          exact .last (by simp) (List.mem_reverse.not.2 hacc)
  | cons c rest ih =>
      intro acc hacc
      rw [linesFrom]
      split
      case isTrue hc =>
        subst hc
        have hrest : LinesOf rest (linesFrom [] rest) := ih [] List.not_mem_nil
        unfold dropReturn
        split
        · rename_i acc'
          rw [List.reverse_cons, List.append_assoc]
          exact .returned (by simpa using hacc) hrest
        · rename_i hreturn
          refine .newline (by simpa using hacc) (fun hlast => ?_) hrest
          rw [List.getLast?_reverse] at hlast
          obtain ⟨acc', hacc'⟩ := List.head?_eq_some_iff.1 hlast
          exact hreturn acc' hacc'
      case isFalse hc =>
        have hmore := ih (c :: acc) (by simp [hacc, Ne.symm hc])
        rwa [List.reverse_cons, List.append_assoc] at hmore

/-- A text falls into its lines. -/
theorem linesOf_lines (cs : List Char) : LinesOf cs (lines cs) :=
  linesOf_linesFrom cs [] List.not_mem_nil

/-! ## Where a line stands -/

/-- A text that a line may begin behind: nothing, or one that ends in a newline. -/
def Closed (before : List Char) : Prop :=
  before = [] ∨ before.getLast? = some '\n'

/--
What follows a line: a newline, with the carriage return in front of it if there is one, or the end
of the text.
-/
inductive LineEnd (line : List Char) : List Char → Prop where
  | newline {after : List Char} : line.getLast? ≠ some '\r' → LineEnd line ('\n' :: after)
  | returned {after : List Char} : LineEnd line ('\r' :: '\n' :: after)
  | last : line ≠ [] → LineEnd line []

/-- A line of a text, and what stands before it. -/
structure LineAt (cs before line : List Char) : Prop where
  closed : Closed before
  unbroken : '\n' ∉ line
  ends : ∃ rest, cs = before ++ (line ++ rest) ∧ LineEnd line rest

variable {cs before line rest : List Char} {ls : List (List Char)}

theorem Closed.tail {c : Char} (h : Closed (c :: before)) : Closed before := by
  cases before with
  | nil => exact .inl rfl
  | cons d before => exact h.imp (fun hnil => nomatch hnil) fun hlast => hlast

theorem Closed.cons (h : Closed before) (first : List Char) :
    Closed (first ++ '\n' :: before) := by
  rcases h with rfl | hlast
  · exact .inr (by simp)
  · exact .inr (by simp [List.getLast?_cons, hlast])

/-- Every line of a text stands somewhere in it, behind as many newlines as lines. -/
theorem LinesOf.exists_lineAt (h : LinesOf cs ls) : ∀ {i : Nat}, ls[i]? = some line →
    ∃ before, LineAt cs before line ∧ before.count '\n' = i := by
  -- Behind the first line every line stands as it does in the rest.
  have later {first rest : List Char} {i : Nat} (hfirst : '\n' ∉ first)
      (hrest : ∃ before, LineAt rest before line ∧ before.count '\n' = i) :
      ∃ before, LineAt (first ++ '\n' :: rest) before line ∧ before.count '\n' = i + 1 := by
    obtain ⟨before, ⟨hclosed, hline, after, rfl, hend⟩, hcount⟩ := hrest
    refine ⟨first ++ '\n' :: before, ⟨hclosed.cons first, hline, after, by simp, hend⟩, ?_⟩
    simp [List.count_eq_zero_of_not_mem hfirst, hcount]
  induction h with
  | nil =>
      intro i hi
      cases hi
  | last hne hunbroken =>
      intro i hi
      cases i with
      | zero =>
          cases hi
          exact ⟨[], ⟨.inl rfl, hunbroken, [], by simp, .last hne⟩, rfl⟩
      | succ i => cases hi
  | newline hunbroken hreturn _ ih =>
      intro i hi
      cases i with
      | zero =>
          cases hi
          exact ⟨[], ⟨.inl rfl, hunbroken, _, rfl, .newline hreturn⟩, rfl⟩
      | succ i => exact later hunbroken (ih hi)
  | returned hunbroken _ ih =>
      intro i hi
      cases i with
      | zero =>
          cases hi
          exact ⟨[], ⟨.inl rfl, hunbroken, _, rfl, .returned⟩, rfl⟩
      | succ i =>
          rw [List.append_cons]
          exact later (by simp [hunbroken]) (ih hi)

/-- Behind a newline the lines are those of the rest, and so many newlines end so many lines. -/
theorem linesFrom_append (hclosed : Closed before) (cs acc : List Char)
    (hacc : before = [] → acc = []) :
    linesFrom acc (before ++ cs) = linesFrom acc before ++ lines cs ∧
      (linesFrom acc before).length = before.count '\n' := by
  induction before generalizing acc with
  | nil => simp [hacc rfl, linesFrom, lines]
  | cons c before ih =>
      by_cases hc : c = '\n'
      · subst hc
        obtain ⟨happend, hlength⟩ := ih hclosed.tail [] fun _ => rfl
        simp [linesFrom, happend, hlength]
      · -- The text goes on, for it ends in a newline.
        have hmore : before ≠ [] := by
          rintro rfl
          rcases hclosed with hnil | hlast
          · cases hnil
          · exact hc (Option.some.inj hlast)
        obtain ⟨happend, hlength⟩ := ih hclosed.tail (c :: acc) fun hnil => absurd hnil hmore
        simp [linesFrom, hc, happend, hlength]

/-- Characters before the newline belong to one line. -/
theorem linesFrom_of_not_mem (hline : '\n' ∉ line) (acc : List Char) :
    linesFrom acc (line ++ rest) = linesFrom (line.reverse ++ acc) rest := by
  induction line generalizing acc with
  | nil => rfl
  | cons c line ih =>
      rw [List.mem_cons, not_or] at hline
      rw [List.cons_append, linesFrom, if_neg (Ne.symm hline.1), ih hline.2]
      simp

theorem dropReturn_of_head? {acc : List Char} (h : acc.head? ≠ some '\r') :
    dropReturn acc = acc := by
  unfold dropReturn
  split
  · exact absurd rfl h
  · rfl

/-- What ends at the end of a line is the first line. -/
theorem head?_lines (hline : '\n' ∉ line) (hend : LineEnd line rest) :
    (lines (line ++ rest)).head? = some line := by
  rw [lines, linesFrom_of_not_mem hline, List.append_nil]
  cases hend with
  | newline hreturn =>
      rw [← List.head?_reverse] at hreturn
      simp [linesFrom, dropReturn_of_head? hreturn]
  | returned => simp [linesFrom, dropReturn]
  | last hne => simp [linesFrom, hne]

/-- The lines of a text are those that stand in it, each in the place of the newlines before it. -/
theorem getElem?_lines_iff {i : Nat} : (lines cs)[i]? = some line ↔
    ∃ before, LineAt cs before line ∧ before.count '\n' = i := by
  constructor
  · exact fun hi => (linesOf_lines cs).exists_lineAt hi
  · rintro ⟨before, ⟨hclosed, hline, rest, rfl, hend⟩, rfl⟩
    obtain ⟨happend, hlength⟩ := linesFrom_append hclosed (line ++ rest) [] fun _ => rfl
    rw [lines, happend, ← hlength, List.getElem?_append_right (Nat.le_refl _), Nat.sub_self,
      ← List.head?_eq_getElem?, head?_lines hline hend]

end Chars
end Trainer
