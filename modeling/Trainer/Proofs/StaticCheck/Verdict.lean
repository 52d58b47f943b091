import Mathlib
import Trainer.StaticCheck
import Trainer.Proofs.Pattern
import Trainer.Proofs.Text.Numbering

/-!
# The verdict of a rule

A rule with a pattern is met when the pattern matches somewhere and is not forbidden, or matches
nowhere and is.  Where a forbidden pattern matches, the line that is named is the one in which the
leftmost match starts, under the number that the scan for markers has for it
(`PatternRule.judges_leftmost_match`).

The two count lines in their own ways, one the newlines in front of a place and the other the lines
as it lists them, so that they can only differ at the ends of lines.
-/

namespace Trainer
namespace PatternRule

variable {r : PatternRule} {content : String} {found : Option Nat} {p : Nat}

/-- A rule passes if it finds what it asks for, or does not find what it forbids. -/
theorem passed_judge (r : PatternRule) (content : String) (found : Option Nat) :
    (r.judge content found).passed = (found.isSome != r.forbid) := by
  unfold judge
  split
  case isTrue h => exact h.symm
  case isFalse h => exact (Bool.eq_false_iff.2 h).symm

/-- The opposite rule has the opposite verdict. -/
theorem passed_judge_flip (r : PatternRule) (content : String) (found : Option Nat) :
    ({ r with forbid := !r.forbid }.judge content found).passed =
      !(r.judge content found).passed := by
  rw [passed_judge, passed_judge]
  exact Bool.bne_not _ _

/-- A forbidden match is reported with its line. -/
theorem judge_of_forbidden (hforbid : r.forbid = true) (hmessage : r.message = none) :
    r.judge content (some p) = ⟨false, "forbidden pattern \x60" ++ r.pattern.written ++
      "\x60 found on line " ++ toString (lineOf content.toList p)⟩ := by
  unfold judge
  rw [hforbid, hmessage]
  rfl

/-- Something is found if the pattern matches somewhere. -/
theorem isSome_find?_iff (pattern : Pattern) (content : String) :
    (pattern.find? content).isSome = true ↔ ∃ p, pattern.StartsAt content p := by
  rw [Option.isSome_iff_ne_none, ne_eq, Pattern.find?_eq_none_iff, not_forall_not]

/--
A rule is met exactly if its pattern matches somewhere and is not forbidden, or matches nowhere and
is forbidden, and the opposite rule is met exactly if it is not.  Where a forbidden pattern matches,
the number that is told is that of the line in which the leftmost match starts.  A place has one
such number, and the scan for markers has the line under it.
-/
theorem judges_leftmost_match (r : PatternRule) (content : String) :
    ((r.evaluate content).passed = true ↔
      (∃ p, r.pattern.StartsAt content p) ∧ r.forbid = false ∨
        (¬ ∃ p, r.pattern.StartsAt content p) ∧ r.forbid = true) ∧
    ({ r with forbid := !r.forbid }.evaluate content).passed = !(r.evaluate content).passed ∧
    ∀ p, r.pattern.FirstAt content p → r.forbid = true → r.message = none →
      ∃ n, (∀ n', Chars.Numbered content.toList p n' ↔ n' = n) ∧
        r.evaluate content = ⟨false, "forbidden pattern \x60" ++ r.pattern.written ++
          "\x60 found on line " ++ toString n⟩ ∧
        ∀ text, ⟨n, text⟩ ∈ Marker.scan content ↔ ∃ before line,
          Chars.LiesIn content.toList before line p ∧ Marker.inLine line = true ∧
            text = String.ofList (Chars.trim line) := by
  refine ⟨?verdict, passed_judge_flip r content (r.pattern.find? content), ?named⟩
  case verdict =>
    rw [evaluate, passed_judge, ← isSome_find?_iff]
    cases (r.pattern.find? content).isSome <;> cases r.forbid <;> decide
  case named =>
    intro p hfirst hforbid hmessage
    have hplace : p ≤ content.toList.length := hfirst.starts.1
    have hnumber : ∀ n, Chars.Numbered content.toList p n ↔ n = lineOf content.toList p :=
      fun n => Chars.numbered_iff hplace
    refine ⟨lineOf content.toList p, hnumber, ?_,
      Marker.mem_scan_iff_of_numbered ((hnumber _).2 rfl)⟩
    rw [evaluate, Pattern.find?_eq_some_iff.2 hfirst]
    exact judge_of_forbidden hforbid hmessage

def noReturns : PatternRule :=
  ⟨(Pattern.parse "\\r").toOption.getD default, true, none⟩

/--
The carriage return that ends the second line is found on it, and the scan lists the line with this
number.
-/
theorem judges_leftmost_match_return :
    noReturns.pattern.FirstAt "a\n// TODO\r\nb\n" 9 ∧ noReturns.forbid = true ∧
      noReturns.message = none ∧
      noReturns.evaluate "a\n// TODO\r\nb\n" =
        ⟨false, "forbidden pattern \x60\\r\x60 found on line 2"⟩ ∧
      ∃ before line, Chars.LiesIn "a\n// TODO\r\nb\n".toList before line 9 ∧
        Marker.inLine line = true ∧ "// TODO" = String.ofList (Chars.trim line) := by
  have hfirst : noReturns.pattern.FirstAt "a\n// TODO\r\nb\n" 9 :=
    Pattern.find?_eq_some_iff.1 (by decide +kernel)
  obtain ⟨-, -, hnamed⟩ := judges_leftmost_match noReturns "a\n// TODO\r\nb\n"
  obtain ⟨n, hnumber, htold, hscan⟩ := hnamed 9 hfirst rfl rfl
  have hn : n = 2 := ((hnumber n).2 rfl).eq.trans (by decide +kernel)
  subst hn
  refine ⟨hfirst, rfl, rfl, ?_, (hscan "// TODO").1 (by decide +kernel)⟩
  rw [htold]
  decide +kernel

end PatternRule
end Trainer
