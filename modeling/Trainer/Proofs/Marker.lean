import Mathlib
import Trainer.Marker
import Trainer.Proofs.Text.Lines

/-!
# Which markers are found

`Marker.scan` looks at a text line by line.  What it lists are the lines with the word, each once
and with its number, from top to bottom (`Marker.scan_lists_lines`).  As the word has no character
that ends a line, it finds a marker exactly when the word stands somewhere in the text as a whole,
in some letter case (`Marker.scan_eq_nil_iff`).

## Lines

* a word without line ends lies in a text exactly when it lies in one of its lines
  (`Chars.exists_line_infix_iff`).
-/

namespace Trainer
namespace Chars

variable {α : Type} {a : α} {w xs ys : List α}

/-! ## Words around a character they do not have -/

/-- A word without the separator ends before it. -/
theorem prefix_of_prefix_append_cons (xs : List α) (ha : a ∉ w) (h : w <+: xs ++ a :: ys) :
    w <+: xs := by
  rcases List.prefix_or_prefix_of_prefix h (List.prefix_append xs (a :: ys)) with hw | hx
  · exact hw
  · obtain ⟨t, rfl⟩ := hx
    have ht : t <+: a :: ys := (List.prefix_append_right_inj xs).1 h
    cases t with
    | nil => simp
    | cons b t =>
        have hb : b = a := (List.cons_prefix_cons.1 ht).1
        exact absurd (by simp [hb]) ha

/-- A word lies on one side of a character that it does not have. -/
theorem infix_append_cons_iff (ha : a ∉ w) :
    w <:+: xs ++ a :: ys ↔ w <:+: xs ∨ w <:+: ys := by
  constructor
  · intro h
    induction xs with
    | nil =>
        rcases List.infix_cons_iff.1 h with hw | hw
        · exact Or.inl (prefix_of_prefix_append_cons [] ha hw).isInfix
        · exact Or.inr hw
    | cons x xs ih =>
        rcases List.infix_cons_iff.1 h with hw | hw
        · exact Or.inl (prefix_of_prefix_append_cons (x :: xs) ha hw).isInfix
        · exact (ih hw).imp_left fun hx => List.infix_cons_iff.2 (Or.inr hx)
  · rintro (h | h)
    · exact List.infix_append_of_infix_left h
    · exact List.infix_append_of_infix_right (List.infix_cons_iff.2 (Or.inr h))

/-! ## Searching -/

/-- The search finds just the words that occur. -/
theorem occursIn_iff (needle : List Char) : ∀ cs : List Char,
    occursIn needle cs = true ↔ needle <:+: cs
  | [] => by simp [occursIn]
  | c :: rest => by
      rw [occursIn, Bool.or_eq_true, List.isPrefixOf_iff_prefix, occursIn_iff needle rest,
        List.infix_cons_iff]

/-! ## Words in lines -/

variable {word : List Char}

/-- A word without a return is not lost with the return at the end of a line. -/
theorem infix_dropReturn_iff (hr : '\r' ∉ word) (hne : word ≠ []) (acc : List Char) :
    word <:+: (dropReturn acc).reverse ↔ word <:+: acc.reverse := by
  unfold dropReturn
  split
  · rename_i rest
    rw [List.reverse_cons, infix_append_cons_iff hr]
    simp [hne]
  · rfl

/-- A word that has no line break lies in one of the lines if it lies in the text. -/
theorem exists_linesFrom_infix_iff (hn : '\n' ∉ word) (hr : '\r' ∉ word) (hne : word ≠ [])
    (cs : List Char) : ∀ acc : List Char,
      (∃ line ∈ linesFrom acc cs, word <:+: line) ↔ word <:+: acc.reverse ++ cs := by
  -- The unfinished line is what the induction is generalised over.
  induction cs with
  | nil =>
      intro acc
      cases acc with
      | nil => simp [linesFrom, hne]
      | cons c acc => simp [linesFrom]
  | cons c rest ih =>
      intro acc
      by_cases hc : c = '\n'
      · subst hc
        have hrest := ih []
        rw [List.reverse_nil, List.nil_append] at hrest
        simp only [linesFrom, if_true, List.exists_mem_cons_iff]
        rw [infix_dropReturn_iff hr hne, hrest, infix_append_cons_iff hn]
      · simp only [linesFrom, if_neg hc]
        rw [ih (c :: acc)]
        simp

/-- A word without line ends lies in a text exactly when it lies in one of its lines. -/
theorem exists_line_infix_iff (hn : '\n' ∉ word) (hr : '\r' ∉ word) (hne : word ≠ [])
    (cs : List Char) : (∃ line ∈ lines cs, word <:+: line) ↔ word <:+: cs :=
  exists_linesFrom_infix_iff hn hr hne cs []

end Chars

namespace Marker

/-- A text without the marker's word in any letter case. -/
def Free (content : String) : Prop :=
  ∀ w : List Char, w <:+: content.toList → Chars.lower w ≠ word

/-- A line has the word if some part of it, put in lower case, is the word. -/
theorem inLine_iff (line : List Char) :
    inLine line = true ↔ ∃ w, w <:+: line ∧ Chars.lower w = word := by
  rw [inLine, Chars.occursIn_iff, Chars.lower, List.infix_map_iff]
  constructor
  · rintro ⟨w, hw, heq⟩
    exact ⟨w, hw, heq.symm⟩
  · rintro ⟨w, hw, heq⟩
    exact ⟨w, hw, heq.symm⟩

theorem not_mem_of_lower_eq_word {w : List Char} {c : Char} (h : Chars.lower w = word)
    (hc : c.toLower ∉ word) : c ∉ w := by
  intro hmem
  exact hc (h ▸ List.mem_map_of_mem hmem)

/-- A text has a line with the word exactly when it has the word. -/
theorem exists_line_iff (cs : List Char) : (∃ line ∈ Chars.lines cs, inLine line = true) ↔
    ∃ w, w <:+: cs ∧ Chars.lower w = word := by
  have key : ∀ w : List Char, Chars.lower w = word →
      ((∃ line ∈ Chars.lines cs, w <:+: line) ↔ w <:+: cs) := by
    intro w hw
    have hne : w ≠ [] := by
      rintro rfl
      simp [Chars.lower, word] at hw
    exact Chars.exists_line_infix_iff (not_mem_of_lower_eq_word hw (by decide))
      (not_mem_of_lower_eq_word hw (by decide)) hne cs
  constructor
  · rintro ⟨line, hline, hin⟩
    obtain ⟨w, hw, hlow⟩ := (inLine_iff line).1 hin
    exact ⟨w, (key w hlow).1 ⟨line, hline, hw⟩, hlow⟩
  · rintro ⟨w, hw, hlow⟩
    obtain ⟨line, hline, hin⟩ := (key w hlow).2 hw
    exact ⟨line, hline, (inLine_iff line).2 ⟨w, hin, hlow⟩⟩

/-- Nothing is found if no line has the word. -/
theorem scanFrom_eq_nil_iff (lines : List (List Char)) : ∀ n : Nat,
    scanFrom n lines = [] ↔ ∀ line ∈ lines, inLine line = false := by
  induction lines with
  | nil => simp [scanFrom]
  | cons line rest ih =>
      intro n
      cases h : inLine line <;> simp [scanFrom, h, ih]

/-- The scan finds nothing exactly in the texts that are free of the word. -/
theorem scan_eq_nil_iff (content : String) : scan content = [] ↔ Free content := by
  rw [scan, scanFrom_eq_nil_iff]
  have h := not_congr (exists_line_iff content.toList)
  simp only [not_exists, not_and, Bool.not_eq_true] at h
  exact h

/-! ## What is listed -/

variable {m : Marker}

theorem mem_scanFrom_cons {line : List Char} {rest : List (List Char)} {n : Nat} :
    m ∈ scanFrom n (line :: rest) ↔
      (inLine line = true ∧ m = ⟨n, String.ofList (Chars.trim line)⟩) ∨
        m ∈ scanFrom (n + 1) rest := by
  cases h : inLine line <;> simp [scanFrom, h]

/-- Listed are the lines with the word, under the numbers that they have in the list. -/
theorem mem_scanFrom_iff (lines : List (List Char)) (n : Nat) : m ∈ scanFrom n lines ↔
    ∃ i line, lines[i]? = some line ∧ inLine line = true ∧
      m = ⟨n + i, String.ofList (Chars.trim line)⟩ := by
  induction lines generalizing n with
  | nil => simp [scanFrom]
  | cons first rest ih =>
      rw [mem_scanFrom_cons, ih]
      constructor
      · rintro (⟨hin, hm⟩ | ⟨i, line, hi, hin, hm⟩)
        · exact ⟨0, first, rfl, hin, hm⟩
        · exact ⟨i + 1, line, hi, hin, by rw [hm, Nat.add_right_comm, Nat.add_assoc]⟩
      · rintro ⟨i, line, hi, hin, hm⟩
        cases i with
        | zero =>
            cases hi
            exact .inl ⟨hin, hm⟩
        | succ i => exact .inr ⟨i, line, hi, hin, by rw [hm, Nat.add_right_comm, Nat.add_assoc]⟩

/-- Marks are found from above to below. -/
theorem pairwise_scanFrom (lines : List (List Char)) (n : Nat) :
    (scanFrom n lines).Pairwise fun m m' => m.line < m'.line := by
  induction lines generalizing n with
  | nil => exact .nil
  | cons line rest ih =>
      rw [scanFrom]
      split
      · refine List.pairwise_cons.2 ⟨fun m' hm' => ?_, ih (n + 1)⟩
        -- Whatever comes later has a later number.
        obtain ⟨i, -, -, -, rfl⟩ := (mem_scanFrom_iff rest (n + 1)).1 hm'
        exact Nat.lt_of_lt_of_le (Nat.lt_succ_self n) (Nat.le_add_right _ _)
      · exact ih (n + 1)

/--
The markers are the lines of the text that hold the word in some letter case, each without the
blanks at its ends and with its number, which is one more than the newlines before it.  They are
listed in the order of their numbers and without repeats, and there are none exactly if the text as
a whole is free of the word.
-/
theorem scan_lists_lines (content : String) :
    (∀ m : Marker, m ∈ scan content ↔ ∃ before line,
      Chars.LineAt content.toList before line ∧
      (∃ w, w <:+: line ∧ Chars.lower w = word) ∧
      m = ⟨before.count '\n' + 1, String.ofList (Chars.trim line)⟩) ∧
    (scan content).Pairwise (fun m m' => m.line < m'.line) ∧
    (scan content = [] ↔ Free content) := by
  refine ⟨fun m => ?_, pairwise_scanFrom _ _, scan_eq_nil_iff content⟩
  rw [scan, mem_scanFrom_iff]
  constructor
  · rintro ⟨i, line, hi, hin, hm⟩
    obtain ⟨before, hline, rfl⟩ := Chars.getElem?_lines_iff.1 hi
    exact ⟨before, line, hline, (inLine_iff line).1 hin, by rw [hm, Nat.add_comm]⟩
  · rintro ⟨before, line, hline, hin, hm⟩
    exact ⟨before.count '\n', line, Chars.getElem?_lines_iff.2 ⟨before, hline, rfl⟩,
      (inLine_iff line).2 hin, by rw [hm, Nat.add_comm]⟩

/-- A carriage return that stands alone ends no line. -/
example : scan "a\r\nb // ToDo \r\n\rTODO" = [⟨2, "b // ToDo"⟩, ⟨3, "TODO"⟩] := by
  decide +kernel

end Marker
end Trainer
