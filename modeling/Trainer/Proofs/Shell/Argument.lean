import Mathlib
import Trainer.Proofs.Shell.Expansion

/-!
# Texts that are one argument

By the rules of quoting a text may mean another one: an ordinary character means itself, a
backslash takes away what the next character means, and between single quotes everything means
itself (`Literal`).  The shell makes one argument of such a text, which is what the text means
(`Literal.isArgument`).
-/

namespace Trainer
namespace Shell

variable {text value after : Bytes} {w : Word}

/-! ## The rules of quoting -/

/-- A text and what it means by the rules of quoting. -/
inductive Literal : Bytes → Bytes → Prop where
  | nil : Literal [] []
  | plain {c : Char} {text value : Bytes} : Ordinary c → Literal text value →
      Literal (c :: text) (c :: value)
  /-- A backslash quotes any character but a line end, with which it would go. -/
  | escaped {c : Char} {text value : Bytes} : c ≠ '\n' → Literal text value →
      Literal ('\\' :: c :: text) (c :: value)
  | quoted {inner text value : Bytes} : '\'' ∉ inner → Literal text value →
      Literal ('\'' :: (inner ++ '\'' :: text)) (inner ++ value)

/-- What a text means is read from it. -/
theorem Literal.exists_word (h : Literal text value) :
    ∃ w, ReadsAs text w ∧ Inert w value ∧ (w = [] ↔ text = []) := by
  induction h with
  | nil => exact ⟨[], ReadsAs.nil, .nil, by simp⟩
  | plain hc _ ih =>
      obtain ⟨w, hreads, hinert, -⟩ := ih
      exact ⟨_, ReadsAs.plain hc hreads, .char (fun _ => hc) hinert, by simp⟩
  | escaped hc _ ih =>
      obtain ⟨w, hreads, hinert, -⟩ := ih
      exact ⟨_, ReadsAs.escaped hc hreads, .char (fun hq => by cases hq) hinert, by simp⟩
  | @quoted inner _ _ hinner _ ih =>
      obtain ⟨w, hreads, hinert, -⟩ := ih
      exact ⟨_, ReadsAs.quoted hinner hreads, .quotes (hinert.quoted_append inner), by simp⟩

theorem Literal.beginsWord (h : Literal text value) (hne : text ≠ []) (after : Bytes) :
    BeginsWord (text ++ after) := by
  cases h with
  | nil => exact absurd rfl hne
  | plain hc _ => exact ⟨_, _, rfl, hc.inside, hc.not_first.1, fun hjoin => hc.not_quoting.1 hjoin.1⟩
  | escaped hc _ => exact ⟨_, _, rfl, by decide, by decide, fun hjoin => hc (by simpa using hjoin.2)⟩
  | quoted _ _ => exact ⟨_, _, rfl, by decide, by decide, by simp⟩

/-! ## Arguments -/

/--
What may stand behind an argument: the end of the text, or a character that ends words.  A digit
before a redirection is no argument, but the number of a descriptor.
-/
structure EndsArgument (text after : Bytes) : Prop where
  ends : ∀ c ∈ after.head?, isMeta c = true
  no_descriptor : ∀ d, text = [d] → d.isDigit = true → ∀ c ∈ after.head?, c ≠ '<' ∧ c ≠ '>'

/-- A text adds a word to the command in which it stands behind other words, and nothing else. -/
def AddsWord (text : Bytes) (w : Word) : Prop :=
  ∀ (fuel line : Nat) (assigned : List (Bytes × Word)) (words : List Word)
    (redirects : List Redirect) (r : Reader) (blanks after : Bytes),
    words ≠ [] → (∀ c ∈ blanks, c = ' ' ∨ c = '\t') → EndsArgument text after →
    r.rest = blanks ++ (text ++ after) → r.rest.length ≤ fuel →
    readSimple (fuel + 1) line assigned words redirects r =
      readSimple fuel line assigned (w :: words) redirects
        (r.skipped (blanks.length + text.length))

/--
A text is one argument of the command in which it stands, and its value is another text, in every
state of the shell.
-/
def IsArgument (text value : Bytes) : Prop :=
  ∃ w : Word, AddsWord text w ∧ ExpandsTo w value

/-- What follows a text of this kind is not drawn into a redirection with it. -/
theorem Literal.noRedirect (h : Literal text value) (hne : text ≠ [])
    (hafter : EndsArgument text after) : NoRedirect (text ++ after) := by
  have hinside {c : Char} (hc : isMeta c = false) : c ≠ '<' ∧ c ≠ '>' := by
    constructor
    · rintro rfl
      cases hc
    · rintro rfl
      cases hc
  cases h with
  | nil => exact absurd rfl hne
  | @plain c text value hc h =>
      by_cases hdigit : c.isDigit = true
      -- Behind the digit stands more of the text, or what follows it.
      · have hbehind : ∀ d ∈ (text ++ after).head?, d ≠ '<' ∧ d ≠ '>' := by
          by_cases hempty : text = []
          · rw [hempty, List.nil_append]
            exact hafter.no_descriptor c (by rw [hempty]) hdigit
          · obtain ⟨d, rest, heq, hmeta, -, -⟩ := h.beginsWord hempty after
            rw [heq]
            rintro _ ⟨⟩
            exact hinside hmeta
        simpa [NoRedirect, hdigit] using hbehind
      · simpa [NoRedirect, hdigit] using hinside hc.inside
  | escaped _ _ => simp [NoRedirect, Char.isDigit]
  | quoted _ _ => simp [NoRedirect, Char.isDigit]

/-- What is read as one word adds that word to a command. -/
theorem Literal.addsWord (h : Literal text value) (hne : text ≠ []) (hreads : ReadsAs text w) :
    AddsWord text w := by
  intro fuel line assigned words redirects r blanks after hwords hblanks hafter hrest hfuel
  have hlength : r.rest.length = blanks.length + (text.length + after.length) := by simp [hrest]
  have hword : readWord false fuel [] (r.skipped blanks.length) =
      .ok (w, (r.skipped blanks.length).skipped text.length) :=
    hreads (Reader.rest_skipped_of_append hrest) hafter.ends (by omega)
  rw [readSimple_word hwords hblanks hrest (h.beginsWord hne after) (h.noRedirect hne hafter) hword
    (by omega), Reader.skipped_add]

/-- A text is one argument, and its value is what it means by the rules of quoting. -/
theorem Literal.isArgument (h : Literal text value) (hne : text ≠ []) : IsArgument text value := by
  obtain ⟨w, hreads, hinert, hempty⟩ := h.exists_word
  exact ⟨w, h.addsWord hne hreads, hinert.expandsTo (mt hempty.1 hne)⟩

end Shell
end Trainer
