import Mathlib
import Trainer.Toolchain
import Trainer.Proofs.Text.Filling

/-!
# When a command line is filled at once

A command line has places for four fields, and each is filled with a text quoted for the shell.  One
would have all four filled at once (`Toolchain.filled`): what is put in stays as it was quoted,
whatever the paths and the name look like.  The toolchain fills one place after the other, so a
place that is named in a path is filled too, inside the quotes of that path.

The two agree on every command line exactly when no field disturbs one that comes later
(`Toolchain.render_eq_filled_iff`): neither is the mark of the later one in its text, nor is its text
a piece of the later one's word.

* A quoted text is sealed (`ShellWord.sealed_quoteChars`).
* It holds a mark exactly when the text itself does (`ShellWord.infix_quoteChars_iff`), so quoting
  does not keep a field from disturbing others.
-/

namespace Trainer

open Chars

namespace ShellWord

variable {c : Char} {w cs : List Char}

/-! ## Quoted texts -/

theorem ne_of_isSafe (h : isSafe c = true) : c ≠ '{' ∧ c ≠ '}' ∧ c ≠ '\'' := by
  refine ⟨?_, ?_, ?_⟩
  all_goals
    rintro rfl
    exact absurd h (by decide)

/-- A text is quoted unless it is a word as it stands. -/
theorem quoteChars_cases (cs : List Char) :
    (cs ≠ [] ∧ (∀ c ∈ cs, isSafe c = true) ∧ quoteChars cs = cs) ∨
      quoteChars cs = '\'' :: (cs.flatMap quoteChar ++ ['\'']) := by
  by_cases h : (!cs.isEmpty && cs.all isSafe) = true
  · have hparts := Bool.and_eq_true_iff.1 h
    have hne : cs ≠ [] := by simpa using hparts.1
    have hsafe : ∀ c ∈ cs, isSafe c = true := by simpa using hparts.2
    exact Or.inl ⟨hne, hsafe, if_pos h⟩
  · exact Or.inr (if_neg h)

/-- A text of safe characters is quoted as it is. -/
theorem quoteChars_of_isSafe (hne : cs ≠ []) (hsafe : ∀ c ∈ cs, isSafe c = true) :
    quoteChars cs = cs := by
  have h : (!cs.isEmpty && cs.all isSafe) = true := by
    simpa [hne] using hsafe
  exact if_pos h

/-- No mark reaches out of a quoted value. -/
theorem sealed_quoteChars (cs : List Char) : Sealed (quoteChars cs) := by
  rcases quoteChars_cases cs with ⟨hne, hsafe, hquote⟩ | hquote
  · have hopen : '{' ∉ cs := fun hmem => (ne_of_isSafe (hsafe _ hmem)).1 rfl
    have hclosing : '}' ∉ cs := fun hmem => (ne_of_isSafe (hsafe _ hmem)).2.1 rfl
    rw [hquote]
    exact .bare hne hopen hclosing
  · rw [hquote]
    exact .quoted _

/-- A word without the characters that quoting brings in or writes in another way. -/
def Plain (w : List Char) : Prop :=
  '\'' ∉ w ∧ '\\' ∉ w ∧ '!' ∉ w

/-- Quoting writes a character as it is, or outside the quotes and behind a backslash. -/
theorem quoteChar_cases (c : Char) :
    quoteChar c = [c] ∨ (c = '\'' ∨ c = '!') ∧ quoteChar c = ['\'', '\\', c, '\''] := by
  by_cases h : c = '\'' ∨ c = '!'
  · exact Or.inr ⟨h, if_pos h⟩
  · exact Or.inl (if_neg h)

/-- A plain word has none of the characters that are quoted. -/
theorem Plain.not_mem (hw : Plain w) (hc : c = '\'' ∨ c = '!') : c ∉ w := by
  rcases hc with rfl | rfl
  · exact hw.1
  · exact hw.2.2

/-- A plain word begins a quoted text just if it begins the text. -/
theorem prefix_flatMap_quoteChar_iff (hw : Plain w) :
    w <+: cs.flatMap quoteChar ↔ w <+: cs := by
  induction cs generalizing w with
  | nil => rfl
  | cons c cs ih =>
      cases w with
      | nil => simp
      | cons d w =>
          have hrest : Plain w := by
            simp only [Plain, List.mem_cons, not_or] at hw ⊢
            exact ⟨hw.1.2, hw.2.1.2, hw.2.2.2⟩
          rw [List.flatMap_cons]
          rcases quoteChar_cases c with hquote | ⟨hc, hquote⟩
          · rw [hquote, List.singleton_append, List.cons_prefix_cons, List.cons_prefix_cons,
              ih hrest]
          · -- The word begins neither with a quote nor with what is written behind one.
            have hd : d ≠ '\'' := by
              rintro rfl
              exact hw.1 List.mem_cons_self
            have hdc : d ≠ c := by
              rintro rfl
              exact hw.not_mem hc List.mem_cons_self
            simp [hquote, List.cons_prefix_cons, hd, hdc]

theorem infix_cons_iff_of_not_mem (hc : c ∉ w) : w <:+: c :: cs ↔ w <:+: cs := by
  have h : w <:+: [] ++ c :: cs ↔ w <:+: [] ∨ w <:+: cs := infix_append_cons_iff hc
  constructor
  · intro hin
    rcases h.1 hin with hnil | hcs
    · exact hnil.trans (List.nil_infix)
    · exact hcs
  · intro hcs
    exact h.2 (Or.inr hcs)

/-- A plain word lies in a quoted text just if it lies in the text. -/
theorem infix_flatMap_quoteChar_iff (hw : Plain w) :
    w <:+: cs.flatMap quoteChar ↔ w <:+: cs := by
  induction cs with
  | nil => rfl
  | cons c cs ih =>
      rcases quoteChar_cases c with hquote | ⟨hc, hquote⟩
      · have hfront : w <+: (c :: cs).flatMap quoteChar ↔ w <+: c :: cs :=
          prefix_flatMap_quoteChar_iff hw
        rw [List.flatMap_cons, hquote, List.singleton_append] at hfront ⊢
        rw [List.infix_cons_iff, List.infix_cons_iff, hfront, ih]
      · rw [List.flatMap_cons, hquote]
        simp only [List.cons_append, List.nil_append, infix_cons_iff_of_not_mem hw.1,
          infix_cons_iff_of_not_mem hw.2.1, infix_cons_iff_of_not_mem (hw.not_mem hc), ih]

/-- Quoting does not hide a plain word, and does not make one. -/
theorem infix_quoteChars_iff (hw : Plain w) : w <:+: quoteChars cs ↔ w <:+: cs := by
  rcases quoteChars_cases cs with ⟨-, -, hquote⟩ | hquote
  · rw [hquote]
  · calc
      w <:+: quoteChars cs
          ↔ w <:+: cs.flatMap quoteChar ++ '\'' :: [] := by
            rw [hquote, infix_cons_iff_of_not_mem hw.1]
      _ ↔ w <:+: cs.flatMap quoteChar ∨ w <:+: [] := infix_append_cons_iff hw.1
      _ ↔ w <:+: cs.flatMap quoteChar :=
            or_iff_left_of_imp fun hnil => hnil.trans List.nil_infix
      _ ↔ w <:+: cs := infix_flatMap_quoteChar_iff hw

end ShellWord

/-! ## The fields of a command line -/

/-- A word that stands for a text in command lines. -/
structure CommandField where
  word : List Char
  text : String
  all_isSafe : word.all ShellWord.isSafe = true

namespace CommandField

theorem isSafe_of_mem (f : CommandField) {c : Char} (hc : c ∈ f.word) :
    ShellWord.isSafe c = true :=
  List.all_eq_true.1 f.all_isSafe c hc

/-- Where the text of a field goes, quoted for the shell. -/
def place (f : CommandField) : Place where
  word := f.word
  value := ShellWord.quoteChars f.text.toList
  brace_not_mem := fun h => (ShellWord.ne_of_isSafe (f.isSafe_of_mem h)).1 rfl
  closing_not_mem := fun h => (ShellWord.ne_of_isSafe (f.isSafe_of_mem h)).2.1 rfl
  quote_not_mem := fun h => (ShellWord.ne_of_isSafe (f.isSafe_of_mem h)).2.2 rfl
  sealed_value := ShellWord.sealed_quoteChars f.text.toList

/-- The text of a field names the place of another one, or is a piece of the other's word. -/
def Disturbs (f g : CommandField) : Prop :=
  g.place.mark <:+: f.text.toList ∨ f.text ≠ "" ∧ f.text.toList <:+: g.word

theorem plain_mark (f : CommandField) : ShellWord.Plain f.place.mark := by
  have hword : ∀ c : Char, ShellWord.isSafe c = false → c ∉ f.word := by
    intro c hc hmem
    have hsafe := f.isSafe_of_mem hmem
    simp [hc] at hsafe
  refine ⟨f.place.quote_not_mem_mark, ?_, ?_⟩
  · simp [Place.mark, place, hword '\\' (by decide)]
  · simp [Place.mark, place, hword '!' (by decide)]

/-- A text that is quoted is no piece of a mark; one that is not has no braces. -/
theorem quoteChars_infix_mark_iff (f g : CommandField) :
    ShellWord.quoteChars f.text.toList <:+: g.place.mark ↔
      f.text ≠ "" ∧ f.text.toList <:+: g.word := by
  have hmark : g.place.mark = '{' :: (g.word ++ '}' :: []) := rfl
  constructor
  · intro h
    rcases ShellWord.quoteChars_cases f.text.toList with ⟨hne, hsafe, hquote⟩ | hquote
    · rw [hquote, hmark] at h
      have hopen : '{' ∉ f.text.toList := fun hmem =>
        (ShellWord.ne_of_isSafe (hsafe _ hmem)).1 rfl
      have hclosing : '}' ∉ f.text.toList := fun hmem =>
        (ShellWord.ne_of_isSafe (hsafe _ hmem)).2.1 rfl
      have hbody := (ShellWord.infix_cons_iff_of_not_mem hopen).1 h
      rcases (infix_append_cons_iff hclosing).1 hbody with hword | hnil
      · exact ⟨by simpa using hne, hword⟩
      · exact absurd (List.infix_nil.1 hnil) hne
    · have hmem : '\'' ∈ ShellWord.quoteChars f.text.toList := by simp [hquote]
      exact absurd (h.subset hmem) g.place.quote_not_mem_mark
  · rintro ⟨hne, hin⟩
    have hsafe : ∀ c ∈ f.text.toList, ShellWord.isSafe c = true := fun c hc =>
      g.isSafe_of_mem (hin.subset hc)
    rw [ShellWord.quoteChars_of_isSafe (by simpa using hne) hsafe, hmark]
    exact hin.trans ⟨['{'], ['}'], by simp⟩

/-- Two fields are apart if the text of the one does not disturb the other. -/
theorem apart_iff (f g : CommandField) : f.place.Apart g.place ↔ ¬ f.Disturbs g := by
  have hvalue : g.place.mark <:+: f.place.value ↔ g.place.mark <:+: f.text.toList :=
    ShellWord.infix_quoteChars_iff g.plain_mark
  constructor
  · rintro ⟨hclear, hpiece⟩ (hin | hin)
    · exact hclear (hvalue.2 hin)
    · exact hpiece ((quoteChars_infix_mark_iff f g).2 hin)
  · intro h
    constructor
    · exact fun hin => h (Or.inl (hvalue.1 hin))
    · exact fun hin => h (Or.inr ((quoteChars_infix_mark_iff f g).1 hin))

end CommandField

namespace CommandContext

/-- The fields of a command line, in the order in which they are filled. -/
def fields (c : CommandContext) : List CommandField :=
  [⟨['s', 'o', 'u', 'r', 'c', 'e'], c.source.text, rfl⟩,
    ⟨['t', 'e', 's', 't'], c.test.text, rfl⟩,
    ⟨['a', 'r', 't', 'i', 'f', 'a', 'c', 't'], c.artifact.text, rfl⟩,
    ⟨['n', 'a', 'm', 'e'], c.name, rfl⟩]

def places (c : CommandContext) : List Place :=
  c.fields.map CommandField.place

theorem nodup_words (c : CommandContext) : (c.places.map Place.word).Nodup := by
  simp [places, fields, CommandField.place]

end CommandContext

namespace Toolchain

/-- A command line with all places filled at once. -/
def filled (template : String) (c : CommandContext) : String :=
  String.ofList (fill c.places template.toList)

/-- The program's chain of replacements fills the places in turn. -/
theorem render_eq_fillEach (template : String) (c : CommandContext) :
    render template c = String.ofList (fillEach c.places template.toList) := by
  simp [render, Text.replaceAll, ShellWord.quote, namePlace, fillEach, CommandContext.places,
    CommandContext.fields, CommandField.place, Place.mark]

/--
Filling one place after the other is filling all at once, whatever the command line, exactly if no
field disturbs one that comes later.
-/
theorem render_eq_filled_iff (c : CommandContext) :
    (∀ template, render template c = filled template c) ↔
      c.fields.Pairwise fun f g => ¬ f.Disturbs g := by
  have hchars : (∀ template, render template c = filled template c) ↔
      ∀ cs, fillEach c.places cs = fill c.places cs := by
    constructor
    · intro h cs
      have hcs := h (String.ofList cs)
      rw [render_eq_fillEach, filled, String.toList_ofList] at hcs
      simpa using congrArg String.toList hcs
    · intro h template
      rw [render_eq_fillEach, filled, h]
  have hapart : c.places.Pairwise Place.Apart ↔
      c.fields.Pairwise fun f g => ¬ f.Disturbs g := by
    rw [CommandContext.places, List.pairwise_map]
    simp only [CommandField.apart_iff]
  calc
    (∀ template, render template c = filled template c)
        ↔ ∀ cs, fillEach c.places cs = fill c.places cs := hchars
    _ ↔ c.places.Pairwise Place.Apart := fillEach_eq_fill_iff c.nodup_words
    _ ↔ c.fields.Pairwise fun f g => ¬ f.Disturbs g := hapart

/-- A source file whose name has the mark of another field in it. -/
def marked : CommandContext where
  source := ⟨"/w/\x7bname\x7d.sh"⟩
  test := ⟨"/w/t.sh"⟩
  artifact := ⟨"/w/bin/a"⟩
  name := "a; b"

/-- The name is put into the quotes of the path and ends them. -/
theorem render_marked :
    render "cat \x7bsource\x7d" marked = "cat '/w/'a; b'.sh'" ∧
      filled "cat \x7bsource\x7d" marked = "cat '/w/\x7bname\x7d.sh'" ∧
      ¬ ∀ template, render template marked = filled template marked := by
  have hrender : render "cat \x7bsource\x7d" marked = "cat '/w/'a; b'.sh'" := by
    decide +kernel
  have hfilled : filled "cat \x7bsource\x7d" marked = "cat '/w/\x7bname\x7d.sh'" := by
    decide +kernel
  refine ⟨hrender, hfilled, ?_⟩
  intro h
  have heq := h "cat \x7bsource\x7d"
  rw [hrender, hfilled] at heq
  exact absurd heq (by decide)

end Toolchain
end Trainer
