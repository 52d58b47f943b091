import Mathlib
import Trainer.Proofs.Shell.Argument
import Trainer.Proofs.Toolchain.Substitution

/-!
# What the shell makes of a quoted text

The texts that are put into the places of a command line are quoted for the shell.  Whatever the
paths and the name are, each of them is read as one argument, which is the path or the name itself
(`Toolchain.render_fills_arguments`): an empty one, one with blanks, quotes, dollar signs,
backslashes, line ends or patterns, and one in another script.

* The shell reads bytes (`Shell.encode`).  A character that is not an ASCII character has no byte of
  one, so no quote is hidden in it (`Shell.mem_encode`).
* A safe character is an ordinary one (`ShellWord.ordinary_of_isSafe`), and a text with others stands
  between quotes, out of which quotes and exclamation marks step with a backslash
  (`ShellWord.literal_quoteChars`).
-/

namespace Trainer

open Chars

namespace Shell

/-! ## Bytes -/

variable {c d : Char} {b : UInt8}

theorem toList_loop_eq (bytes : ByteArray) (i : Nat) (taken : List UInt8) :
    ByteArray.toList.loop bytes i taken = taken.reverse ++ bytes.data.toList.drop i := by
  fun_induction ByteArray.toList.loop bytes i taken with
  | case1 i taken h ih =>
      have hi : i < bytes.data.toList.length := by simpa using h
      rw [ih, List.drop_eq_getElem_cons hi]
      simp [ByteArray.get!, h]
  | case2 i taken h =>
      rw [List.drop_eq_nil_of_le (by simpa using h), List.append_nil]

/-- The bytes of a character, as the shell sees them. -/
def encode (c : Char) : Bytes :=
  (String.utf8EncodeChar c).map fun b => Char.ofNat b.toNat

/-- The bytes of a text are those of its characters. -/
theorem bytesOf_ofList (cs : List Char) : Sh.bytesOf (String.ofList cs) = cs.flatMap encode := by
  have hbytes : (String.ofList cs).toUTF8.toList = cs.flatMap String.utf8EncodeChar := by
    rw [ByteArray.toList, toList_loop_eq]
    simp [String.toUTF8, List.utf8Encode]
  rw [Sh.bytesOf, hbytes, List.map_flatMap]
  rfl

theorem encode_of_ascii (hc : c.toNat < 128) : encode c = [c] := by
  have hvalue : c.val.toNat ≤ 127 := Nat.le_of_lt_succ hc
  have hbyte : (UInt8.ofNat c.val.toNat).toNat = c.val.toNat := by
    rw [UInt8.toNat_ofNat']
    omega
  rw [encode, String.utf8EncodeChar]
  simp only [hvalue, if_true, List.map_cons, List.map_nil, hbyte]
  exact congrArg (fun d => [d]) (Char.ofNat_toNat c)

/-- All bytes of a character that is not an ASCII character are high ones. -/
theorem high_of_mem_utf8EncodeChar (hc : 128 ≤ c.toNat) (hb : b ∈ String.utf8EncodeChar c) :
    128 ≤ b.toNat := by
  have hvalue : ¬ c.val.toNat ≤ 127 := Nat.not_le_of_lt hc
  simp only [String.utf8EncodeChar, hvalue, if_false] at hb
  split at hb
  case isTrue =>
    simp only [List.mem_cons, List.not_mem_nil, or_false] at hb
    rcases hb with rfl | rfl
    all_goals
      rw [UInt8.toNat_ofNat']
      omega
  case isFalse =>
    split at hb
    case isTrue =>
      simp only [List.mem_cons, List.not_mem_nil, or_false] at hb
      rcases hb with rfl | rfl | rfl
      all_goals
        rw [UInt8.toNat_ofNat']
        omega
    case isFalse =>
      simp only [List.mem_cons, List.not_mem_nil, or_false] at hb
      rcases hb with rfl | rfl | rfl | rfl
      all_goals
        rw [UInt8.toNat_ofNat']
        omega

/-- No ASCII character is hidden among the bytes of another character. -/
theorem mem_encode (hd : d ∈ encode c) : d = c ∨ 128 ≤ d.toNat := by
  by_cases hc : c.toNat < 128
  · rw [encode_of_ascii hc] at hd
    exact Or.inl (List.mem_singleton.1 hd)
  · obtain ⟨b, hb, rfl⟩ := List.mem_map.1 hd
    have hhigh : 128 ≤ b.toNat := high_of_mem_utf8EncodeChar (Nat.le_of_not_lt hc) hb
    have hlow : b.toNat < 256 := b.toNat_lt
    right
    rwa [Char.toNat_ofNat, if_pos (Or.inl (by omega))]

theorem quote_not_mem_encode (hc : c ≠ '\'') : '\'' ∉ encode c := by
  intro hmem
  rcases mem_encode hmem with heq | hhigh
  · exact hc heq.symm
  · exact absurd hhigh (by decide)

end Shell

namespace ShellWord

open Shell

variable {c : Char} {cs : List Char}

/-! ## Quoted texts -/

theorem ordinary_of_isSafe (h : isSafe c = true) : Ordinary c := by
  have hne {d : Char} (hd : isSafe d = false) : c ≠ d := by
    rintro rfl
    rw [hd] at h
    cases h
  exact {
    inside := by
      rw [Bool.eq_false_iff]
      intro hmeta
      simp only [isMeta, Bool.or_eq_true, beq_iff_eq, or_assoc] at hmeta
      rcases hmeta with rfl | rfl | rfl | rfl | rfl | rfl | rfl | rfl | rfl | rfl
      all_goals exact absurd h (by decide)
    not_quoting := ⟨hne (by decide), hne (by decide), hne (by decide)⟩
    not_expanding := ⟨hne (by decide), hne (by decide)⟩
    not_pattern := ⟨hne (by decide), hne (by decide), hne (by decide)⟩
    not_first := ⟨hne (by decide), hne (by decide)⟩ }

theorem ascii_of_isSafe (h : isSafe c = true) : c.toNat < 128 := by
  simp only [isSafe, Bool.or_eq_true, beq_iff_eq, or_assoc] at h
  rcases h with halnum | rfl | rfl | rfl | rfl | rfl | rfl | rfl
  · simp only [Char.isAlphanum, Char.isAlpha, Char.isUpper, Char.isLower, Char.isDigit,
      Bool.or_eq_true, Bool.and_eq_true, decide_eq_true_eq, ge_iff_le, UInt32.le_iff_toNat_le]
      at halnum
    simp only [Char.toNat_val, Char.reduceToNat] at halnum
    omega
  all_goals decide

/-- The bytes of safe characters mean themselves. -/
theorem literal_of_isSafe (hsafe : ∀ c ∈ cs, isSafe c = true) :
    Literal (cs.flatMap encode) (cs.flatMap encode) := by
  induction cs with
  | nil => exact .nil
  | cons c cs ih =>
      rw [List.forall_mem_cons] at hsafe
      rw [List.flatMap_cons, encode_of_ascii (ascii_of_isSafe hsafe.1)]
      exact .plain (ordinary_of_isSafe hsafe.1) (ih hsafe.2)

/-- The rest of a quoted text, behind its opening quote and what already stands there. -/
theorem literal_flatMap_quoteChar (cs : List Char) (inner : Bytes) (hinner : '\'' ∉ inner) :
    Literal ('\'' :: (inner ++ ((cs.flatMap quoteChar).flatMap encode ++ ['\''])))
      (inner ++ cs.flatMap encode) := by
  -- What stands between the quotes grows until they end, so it is generalised.
  induction cs generalizing inner with
  | nil => exact .quoted hinner .nil
  | cons c cs ih =>
      by_cases hc : c = '\'' ∨ c = '!'
      -- The quotes end, the character stands behind a backslash, and new quotes begin.
      · have hquote : quoteChar c = ['\'', '\\', c, '\''] := if_pos hc
        have hascii : encode c = [c] := encode_of_ascii (by rcases hc with rfl | rfl <;> decide)
        have hline : c ≠ '\n' := by rcases hc with rfl | rfl <;> decide
        have hrest : Literal ('\'' :: ((cs.flatMap quoteChar).flatMap encode ++ ['\'']))
            (cs.flatMap encode) :=
          ih [] List.not_mem_nil
        have hstep := Literal.quoted hinner (.escaped hline hrest)
        simpa [hquote, hascii, encode_of_ascii] using hstep
      -- Any other character goes between the quotes that are open.
      · have hquote : quoteChar c = [c] := if_neg hc
        have hplain : '\'' ∉ encode c := quote_not_mem_encode fun heq => hc (Or.inl heq)
        have hrest := ih (inner ++ encode c) (by simp [hinner, hplain])
        simpa [hquote] using hrest

/-- A quoted text means the text itself, byte for byte. -/
theorem literal_quoteChars (cs : List Char) :
    Literal ((quoteChars cs).flatMap encode) (cs.flatMap encode) := by
  rcases quoteChars_cases cs with ⟨-, hsafe, hquote⟩ | hquote
  · rw [hquote]
    exact literal_of_isSafe hsafe
  · have hquoted := literal_flatMap_quoteChar cs [] List.not_mem_nil
    simpa [hquote, encode_of_ascii] using hquoted

example : quote "it's $5!" = "'it'\\''s $5'\\!''" := by decide

/-- A quoted text is not empty, whatever the value is. -/
theorem encode_quoteChars_ne_nil (cs : List Char) : (quoteChars cs).flatMap encode ≠ [] := by
  have hne : quoteChars cs ≠ [] := by
    rcases quoteChars_cases cs with ⟨hne, -, hquote⟩ | hquote
    · rwa [hquote]
    · rw [hquote]
      exact List.cons_ne_nil _ _
  obtain ⟨c, rest, heq⟩ := List.exists_cons_of_ne_nil hne
  simp [heq, encode, String.utf8EncodeChar_ne_nil]

end ShellWord

namespace Toolchain

open Shell

/--
A command line is filled with quoted texts, and the shell reads each of them as one argument of the
command in which it stands: the path or the name itself, whatever it is.
-/
theorem render_fills_arguments (c : CommandContext) :
    (∀ template, render template c = String.ofList (fillEach c.places template.toList)) ∧
    ∀ f ∈ c.fields,
      IsArgument (Sh.bytesOf (String.ofList f.place.value)) (Sh.bytesOf f.text) := by
  refine ⟨fun template => render_eq_fillEach template c, fun f _ => ?_⟩
  have htext : Sh.bytesOf f.text = f.text.toList.flatMap encode := by
    rw [← bytesOf_ofList, String.ofList_toList]
  rw [bytesOf_ofList, htext]
  exact (ShellWord.literal_quoteChars f.text.toList).isArgument
    (ShellWord.encode_quoteChars_ne_nil f.text.toList)

end Toolchain
end Trainer
