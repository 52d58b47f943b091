import Mathlib
import Trainer.Text

/-!
# Trimming

* A trimmed text has no blank at either end (`Chars.trimmed_trim`), and there is nothing to trim off
  a text that has none (`Chars.Trimmed.trim_eq`), so a second trim changes nothing
  (`Text.trim_trim`).
* Nothing is left of a text exactly when it has blanks only (`Text.trim_ne_empty_iff`).
* The same is left of two texts exactly when they differ in blanks at their ends only
  (`Text.trim_eq_trim_iff`).
-/

namespace Trainer

namespace Chars

variable {cs : List Char}

/-- A text without a blank at either end. -/
structure Trimmed (cs : List Char) : Prop where
  first : ∀ c ∈ cs.head?, isBlank c = false
  last : ∀ c ∈ cs.getLast?, isBlank c = false

/-- Trimming at the end drops the blanks there. -/
theorem trimEnd_eq (cs : List Char) : trimEnd cs = cs.rdropWhile isBlank := rfl

theorem last_trimEnd (cs : List Char) : ∀ c ∈ (trimEnd cs).getLast?, isBlank c = false := by
  intro c hc
  rw [trimEnd_eq] at hc
  obtain ⟨hne, rfl⟩ := List.mem_getLast?_eq_getLast hc
  simpa using List.rdropWhile_last_not isBlank cs hne

/-- What is left behind the first characters of a kind begins with none of them. -/
theorem first_dropWhile (p : Char → Bool) (cs : List Char) :
    ∀ c ∈ (cs.dropWhile p).head?, p c = false := by
  intro c hc
  have hfirst := List.head?_dropWhile_not p cs
  rw [Option.mem_def] at hc
  simpa [hc] using hfirst

theorem first_trimStart (cs : List Char) : ∀ c ∈ (trimStart cs).head?, isBlank c = false :=
  first_dropWhile isBlank cs

/-- A trimmed text has no blanks at its ends. -/
theorem trimmed_trim (cs : List Char) : Trimmed (trim cs) := by
  refine ⟨fun c hc => ?_, last_trimEnd (trimStart cs)⟩
  -- What is cut off at the end leaves a front of the text, which begins as the text does.
  obtain ⟨back, hback⟩ : trim cs <+: trimStart cs := List.rdropWhile_prefix isBlank _
  apply first_trimStart cs
  rw [← hback]
  exact List.mem_head?_append_of_mem_head? hc

/-- A text without blanks at its ends is trimmed already. -/
theorem Trimmed.trim_eq (h : Trimmed cs) : trim cs = cs := by
  have hstart : trimStart cs = cs := by
    cases cs with
    | nil => rfl
    | cons c rest => exact trimStart_cons_of_not_blank (h.first c rfl)
  rw [trim, hstart, trimEnd_eq, List.rdropWhile_eq_self_iff]
  intro hne
  simpa using h.last _ (List.getLast_mem_getLast? hne)

/-- A part that goes up to the end of a trimmed text has blanks in front only. -/
theorem Trimmed.trim_suffix {front : List Char} (h : Trimmed (front ++ cs)) :
    trim cs = trimStart cs := by
  rw [trim, trimEnd_eq, List.rdropWhile_eq_self_iff]
  intro hne
  obtain ⟨blanks, hblanks⟩ : trimStart cs <:+ cs := List.dropWhile_suffix isBlank
  have hlast := List.getLast_mem_getLast? hne
  rw [← hblanks, ← List.append_assoc] at h
  simpa using h.last _ (List.mem_getLast?_append_of_mem_getLast? hlast)

/-- A newline at the end is taken off, and nothing more if there is no blank before it. -/
theorem trimEnd_append_newline {c : Char} {front text : List Char} (hc : isBlank c = false)
    (h : text = front ++ [c, '\n']) (head : List Char) :
    trimEnd (head ++ text) ++ ['\n'] = head ++ text := by
  have hcut : head ++ text = head ++ front ++ [c] ++ ['\n'] := by simp [h]
  rw [hcut, trimEnd_eq, List.rdropWhile_concat_pos _ _ _ (by decide),
    List.rdropWhile_concat_neg _ _ _ (by simp [hc])]

/-- Trimming leaves nothing of a text that is all blanks. -/
theorem trim_eq_nil_iff : trim cs = [] ↔ ∀ c ∈ cs, isBlank c = true := by
  constructor
  · intro h c hc
    rw [trim, trimEnd_eq, List.rdropWhile_eq_nil_iff] at h
    -- What is left at the front would begin with a character that is no blank.
    have hstart : trimStart cs = [] := by
      by_contra hne
      have hblank := h _ (List.head_mem hne)
      rw [first_trimStart cs _ (List.head_mem_head? hne)] at hblank
      exact Bool.false_ne_true hblank
    exact List.dropWhile_eq_nil_iff.1 hstart c hc
  · intro h
    rw [trim, trimStart, List.dropWhile_eq_nil_iff.2 h]
    rfl

/-- A text with blanks around `core`. -/
def Around (core cs : List Char) : Prop :=
  ∃ front back, (∀ c ∈ front, isBlank c = true) ∧ (∀ c ∈ back, isBlank c = true) ∧
    cs = front ++ core ++ back

/-- What is cut off by trimming is blank. -/
theorem around_trim (cs : List Char) : Around (trim cs) cs := by
  refine ⟨cs.takeWhile isBlank, (trimStart cs).rtakeWhile isBlank, ?_, ?_, ?_⟩
  · exact fun c hc => List.mem_takeWhile_imp hc
  · exact fun c hc => List.mem_rtakeWhile_imp hc
  · rw [trim, trimEnd_eq, List.append_assoc, List.rdropWhile_append_rtakeWhile, trimStart,
      List.takeWhile_append_dropWhile]

/-- Blanks behind a text are trimmed away. -/
theorem trimEnd_append_of_blank {back : List Char} (h : ∀ c ∈ back, isBlank c = true)
    (cs : List Char) : trimEnd (cs ++ back) = trimEnd cs := by
  rw [trimEnd, List.reverse_append, List.dropWhile_append_of_pos, trimEnd]
  simpa using h

/-- Blanks around a text do not change what trimming leaves. -/
theorem Around.trim_eq {core : List Char} (h : Around core cs) : trim cs = trim core := by
  obtain ⟨front, back, hfront, hback, rfl⟩ := h
  rw [trim, trimStart, List.append_assoc, List.dropWhile_append_of_pos hfront,
    List.dropWhile_append, trim, trimStart]
  split_ifs with hempty
  · -- The core has blanks only, so nothing is left of either text.
    rw [List.isEmpty_iff.1 hempty, List.dropWhile_eq_nil_iff.2 hback]
  · exact trimEnd_append_of_blank hback _

end Chars

namespace Text

variable {s : String}

@[simp]
theorem toList_trim (s : String) : (trim s).toList = Chars.trim s.toList :=
  String.toList_ofList

/-- Trimming twice trims no more than once. -/
theorem trim_trim (s : String) : trim (trim s) = trim s := by
  rw [trim, toList_trim, (Chars.trimmed_trim s.toList).trim_eq]
  rfl

/-- A text that says something. -/
def HasInk (s : String) : Prop :=
  ∃ c ∈ s.toList, Chars.isBlank c = false

/-- A text is blank if there is nothing but blanks in it. -/
theorem isBlank_iff : isBlank s = true ↔ ¬ HasInk s := by
  simp [isBlank, Chars.allBlank, HasInk]

/-- Trimming leaves something of a text that has something in it. -/
theorem trim_ne_empty_iff : trim s ≠ "" ↔ HasInk s := by
  rw [Ne, ← String.toList_eq_nil_iff, toList_trim, Chars.trim_eq_nil_iff]
  simp [HasInk]

/-- Texts that differ in the blanks at their ends at most. -/
def SameCore (a b : String) : Prop :=
  ∃ core, Chars.Around core a.toList ∧ Chars.Around core b.toList

/-- Two texts are trimmed alike if they differ in the blanks around them only. -/
theorem trim_eq_trim_iff {a b : String} : trim a = trim b ↔ SameCore a b := by
  constructor
  · intro h
    have hcore : Chars.trim a.toList = Chars.trim b.toList := by
      rw [← toList_trim, h, toList_trim]
    exact ⟨Chars.trim a.toList, Chars.around_trim _, hcore ▸ Chars.around_trim _⟩
  · rintro ⟨core, ha, hb⟩
    rw [trim, ha.trim_eq, ← hb.trim_eq, ← trim]

end Text
end Trainer
