import Mathlib
import Trainer.Text

/-!
# Replacing a text

What comes of replacing every occurrence of a needle, said without going through the text: the text
is cut into pieces in which the needle does not occur, and these are put together again with the new
text between them (`Text.Replaced`).
-/

namespace Trainer
namespace Chars

variable {needle value cs : List Char}

theorem replaceFrom_eq_drop (needle value : List Char) (n : Nat) (cs : List Char) :
    replaceFrom needle value n cs = replaceAll needle value (cs.drop n) := by
  induction n generalizing cs with
  | zero => rfl
  | succ n ih =>
      cases cs with
      | nil => rfl
      | cons c rest => exact ih rest

/-- A needle in front gives way to the value. -/
theorem replaceAll_append (hneedle : needle ≠ []) (value rest : List Char) :
    replaceAll needle value (needle ++ rest) = value ++ replaceAll needle value rest := by
  obtain ⟨c, more, rfl⟩ := List.exists_cons_of_ne_nil hneedle
  have hfront : (c :: more).isPrefixOf (c :: (more ++ rest)) = true := by
    rw [List.isPrefixOf_iff_prefix]
    exact List.prefix_append (c :: more) rest
  rw [replaceAll, List.cons_append, replaceFrom, if_pos hfront, replaceFrom_eq_drop]
  simp

/-- A character that begins no needle stays. -/
theorem replaceAll_cons {c : Char} {rest : List Char} (h : ¬ needle <+: c :: rest) :
    replaceAll needle value (c :: rest) = c :: replaceAll needle value rest := by
  rw [← List.isPrefixOf_iff_prefix] at h
  rw [replaceAll, replaceFrom, if_neg h]
  rfl

theorem intercalate_cons_head (sep : List Char) (c : Char) (first : List Char)
    (rest : List (List Char)) :
    sep.intercalate ((c :: first) :: rest) = c :: sep.intercalate (first :: rest) := by
  cases rest <;> simp [List.intercalate]

/-- A text has pieces without the needle, between which the new text is put. -/
theorem exists_pieces (hneedle : needle ≠ []) (cs : List Char) : ∃ first rest,
    (∀ piece ∈ first :: rest, ¬ needle <:+: piece) ∧
      cs = needle.intercalate (first :: rest) ∧
      ∀ value, replaceAll needle value cs = value.intercalate (first :: rest) := by
  induction hn : cs.length using Nat.strong_induction_on generalizing cs with
  | _ n ih =>
      subst hn
      by_cases hfront : needle <+: cs
      · -- An empty piece stands before the needle.
        obtain ⟨tail, rfl⟩ := hfront
        have hshorter : tail.length < (needle ++ tail).length := by
          rw [List.length_append]
          exact Nat.lt_add_of_pos_left (List.length_pos_iff.2 hneedle)
        obtain ⟨first, rest, hpieces, hjoin, hvalue⟩ := ih _ hshorter tail rfl
        refine ⟨[], first :: rest, fun piece hpiece => ?_, ?_, fun value => ?_⟩
        · rcases List.mem_cons.1 hpiece with rfl | hpiece
          · simpa using hneedle
          · exact hpieces piece hpiece
        · rw [hjoin]
          simp [List.intercalate]
        · rw [replaceAll_append hneedle, hvalue]
          simp [List.intercalate]
      · cases cs with
        | nil =>
            exact ⟨[], [], by simpa using hneedle, by simp [List.intercalate],
              fun value => by simp [List.intercalate, replaceAll, replaceFrom]⟩
        | cons c tail =>
            obtain ⟨first, rest, hpieces, hjoin, hvalue⟩ := ih _ (by simp) tail rfl
            refine ⟨c :: first, rest, fun piece hpiece => ?_, ?_, fun value => ?_⟩
            · rcases List.mem_cons.1 hpiece with rfl | hpiece
              · -- The needle would stand at the front of the text, or in the next piece.
                rw [List.infix_cons_iff, not_or]
                refine ⟨fun hfits => hfront (hfits.trans ?_),
                  hpieces first List.mem_cons_self⟩
                rw [hjoin, ← intercalate_cons_head]
                cases rest <;> simp [List.intercalate]
              · exact hpieces piece (List.mem_cons_of_mem _ hpiece)
            · rw [intercalate_cons_head, ← hjoin]
            · rw [replaceAll_cons hfront, hvalue, intercalate_cons_head]

end Chars

namespace Text

/--
The second text is the first one with a new text for every occurrence of the needle: it has the same
pieces, and the needle occurs in none of them.
-/
def Replaced (needle value s r : String) : Prop :=
  ∃ pieces : List String, pieces ≠ [] ∧ (∀ piece ∈ pieces, ¬ needle.toList <:+: piece.toList) ∧
    s = needle.intercalate pieces ∧ r = value.intercalate pieces

theorem ofList_intercalate (sep : String) (pieces : List (List Char)) :
    String.ofList (sep.toList.intercalate pieces) = sep.intercalate (pieces.map String.ofList) := by
  rw [← String.toList_inj, String.toList_ofList, String.toList_intercalate, List.map_map]
  congr 1
  refine ((List.map_congr_left fun piece _ => ?_).trans (List.map_id _)).symm
  exact String.toList_ofList

/-- Replacing cuts a text at its needles and puts the value between the pieces. -/
theorem replaced_replaceAll {needle : String} (hneedle : needle ≠ "") (value s : String) :
    Replaced needle value s (replaceAll needle value s) := by
  have hchars : needle.toList ≠ [] := by simpa using hneedle
  obtain ⟨first, rest, hpieces, hjoin, hvalue⟩ := Chars.exists_pieces hchars s.toList
  refine ⟨(first :: rest).map String.ofList, by simp, ?_, ?_, ?_⟩
  · intro piece hpiece
    obtain ⟨cs, hcs, rfl⟩ := List.mem_map.1 hpiece
    rw [String.toList_ofList]
    exact hpieces cs hcs
  · rw [← ofList_intercalate, ← hjoin, String.ofList_toList]
  · rw [replaceAll, hvalue, ofList_intercalate]

end Text
end Trainer
