import Mathlib
import Trainer.Toml.Document

/-!
# TOML text on one line

A text written on one line is read back character by character.  A control character has an
escape, which is read as that character whatever follows (`escape?_controlCode`).
-/

namespace Trainer
namespace Toml

/-! ## Escapes -/

/-- Every hex digit is read back. -/
theorem hexValue?_hexDigit : ∀ d < 16, hexValue? (hexDigit d) = some d := by
  decide

/-- Four hex digits are read back. -/
theorem hexNumber?_four {a b : Nat} (ha : a < 16) (hb : b < 16) (tail : List Char) :
    hexNumber? 4 ('0' :: '0' :: hexDigit a :: hexDigit b :: tail) = some (16 * a + b) := by
  have hzero : hexValue? '0' = some 0 := by decide
  simp [hexNumber?, hzero, hexValue?_hexDigit a ha, hexValue?_hexDigit b hb]

/-- The escape of a control character, without its backslash. -/
def controlCode (c : Char) : List Char :=
  (escapeControl c).tail

/-- Control characters are written as a backslash and a code. -/
theorem escapeControl_eq (c : Char) : escapeControl c = '\\' :: controlCode c := by
  unfold controlCode escapeControl
  repeat' split
  all_goals rfl

theorem toNat_lt_of_isControl {c : Char} (h : isControl c = true) : c.toNat < 128 := by
  simp only [isControl, Bool.or_eq_true, decide_eq_true_eq, beq_iff_eq] at h
  omega

/-- The escape of a control character is read as that character, whatever follows. -/
theorem escape?_controlCode {c : Char} (h : isControl c = true) (tail : List Char) :
    escape? (controlCode c ++ tail) = some (c, (controlCode c).length) := by
  unfold controlCode escapeControl
  split
  · subst_vars; rfl
  split
  · subst_vars; rfl
  split
  · subst_vars; rfl
  split
  · subst_vars; rfl
  split
  · subst_vars; rfl
  -- Every other control character is written by its code point.
  · have hlt := toNat_lt_of_isControl h
    have hnum := hexNumber?_four (a := c.toNat / 16) (b := c.toNat % 16) (by omega) (by omega) tail
    have hcode : charOfCode? (16 * (c.toNat / 16) + c.toNat % 16) = some c := by
      rw [Nat.div_add_mod, charOfCode?, if_pos (by omega), Char.ofNat_toNat]
    change ((hexNumber? 4 ('0' :: '0' :: hexDigit _ :: hexDigit _ :: tail)).bind charOfCode?).map
      (·, 5) = _
    rw [hnum, Option.bind_some, hcode]
    rfl

/-! ## Text on one line -/

theorem readBasic_skip (e tail : List Char) : readBasic e.length (e ++ tail) = readBasic 0 tail := by
  induction e with
  | nil => rfl
  | cons c e ih => exact ih

/-- A code behind a backslash is read as the character it stands for. -/
theorem readBasic_escape {e : List Char} {c : Char} {tail : List Char}
    (h : escape? (e ++ tail) = some (c, e.length)) :
    readBasic 0 ('\\' :: (e ++ tail)) = consText c (readBasic 0 tail) := by
  have hne : ('\\' : Char) ≠ '"' := by decide
  simp only [readBasic, if_neg hne, if_true, h, readBasic_skip]

/-- A plain character is read as itself. -/
theorem readBasic_plain {c : Char} (hquote : c ≠ '"') (hback : c ≠ '\\') (hplain : isPlain c = true)
    (tail : List Char) : readBasic 0 (c :: tail) = consText c (readBasic 0 tail) := by
  simp only [readBasic, if_neg hquote, if_neg hback, hplain, if_true]

/-- A character is read as it was written. -/
theorem readBasic_escapeBasic (c : Char) (tail : List Char) :
    readBasic 0 (escapeBasic c ++ tail) = consText c (readBasic 0 tail) := by
  unfold escapeBasic
  split
  case isTrue hquote =>
    subst hquote
    exact readBasic_escape (e := ['"']) rfl
  case isFalse hquote =>
    split
    case isTrue hback =>
      subst hback
      exact readBasic_escape (e := ['\\']) rfl
    case isFalse hback =>
      split
      case isTrue hcontrol =>
        rw [escapeControl_eq, List.cons_append]
        exact readBasic_escape (escape?_controlCode hcontrol tail)
      case isFalse hcontrol =>
        exact readBasic_plain hquote hback (by simp [isPlain, hcontrol]) tail

/-- A text with its codes is read back, up to the closing quote. -/
theorem readBasic_flatMap (cs rest : List Char) :
    readBasic 0 (cs.flatMap escapeBasic ++ '"' :: rest) = some (cs, rest) := by
  induction cs with
  | nil => rfl
  | cons c cs ih =>
      rw [List.flatMap_cons, List.append_assoc, readBasic_escapeBasic, ih]
      rfl

/-- A text between single quotes is read back as it stands. -/
theorem readLiteral_append {cs : List Char} (hquote : '\'' ∉ cs)
    (hplain : ∀ c ∈ cs, isPlain c = true) (rest : List Char) :
    readLiteral (cs ++ '\'' :: rest) = some (cs, rest) := by
  induction cs with
  | nil => rfl
  | cons c cs ih =>
      have hc : c ≠ '\'' := fun heq => hquote (by simp [heq])
      have hcs := ih (fun hmem => hquote (List.mem_cons_of_mem c hmem))
        (fun d hd => hplain d (List.mem_cons_of_mem c hd))
      simp only [List.cons_append, readLiteral, if_neg hc, hplain c (by simp), if_true, hcs]
      rfl

end Toml
end Trainer
