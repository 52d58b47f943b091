import Mathlib
import Trainer.LineDiff.Compact
import Trainer.Proofs.LineDiff

/-!
# Compaction keeps both ends of a script

Compaction changes the edits of a script, but neither where it starts nor where it arrives
(`Script.Leads.compact`).

* An edit that changes places with an edit of the other list, or is joined with one of its own, is
  no change to either list.
* An insertion slides over kept items that equal its own end (`take_append_slid`) or its own front
  (`slid_append_drop`): what it gives up on one side it takes up on the other.
* Each single move keeps both ends, so a whole run of moves does, whatever number of them it takes.
-/

namespace Trainer
namespace Script

variable {α : Type}

theorem leads_iff {s : Script α} {as bs : List α} :
    s.Leads as bs ↔ s.source = as ∧ s.target = bs :=
  ⟨fun h => ⟨h.source, h.target⟩, fun h => ⟨h.1, h.2⟩⟩

/-! ## Kept items at a cursor -/

@[simp]
theorem source_keepFront (xs : List α) (s : Script α) :
    (keepFront xs s).source = xs ++ s.source := by
  unfold keepFront
  split <;> simp [source]

@[simp]
theorem target_keepFront (xs : List α) (s : Script α) :
    (keepFront xs s).target = xs ++ s.target := by
  unfold keepFront
  split <;> simp [target]

@[simp]
theorem source_reverse_keepBehind (xs : List α) (s : Script α) :
    source (keepBehind xs s).reverse = source s.reverse ++ xs := by
  unfold keepBehind
  split <;> simp [source]

@[simp]
theorem target_reverse_keepBehind (xs : List α) (s : Script α) :
    target (keepBehind xs s).reverse = target s.reverse ++ xs := by
  unfold keepBehind
  split <;> simp [target]

/-! ## Sliding -/

variable {xs as bs : List α}

/-- Kept items change sides with an insertion that ends in them. -/
theorem leads_slideUp {rest after : Script α} {ys kept shared front : List α}
    (hys : kept ++ shared = ys) (hxs : front ++ shared = xs)
    (h : Leads ((.keep ys :: rest).reverse ++ .insert xs :: after) as bs) :
    Leads ((.keep kept :: rest).reverse ++ .insert (shared ++ front) :: keepFront shared after)
      as bs := by
  subst hys hxs
  simpa [leads_iff, source, target] using h

/-- Kept items change sides with an insertion that begins with them. -/
theorem leads_slideDown {before rest : Script α} {ys kept shared back : List α}
    (hys : shared ++ kept = ys) (hxs : shared ++ back = xs)
    (h : Leads (before.reverse ++ .insert xs :: .keep ys :: rest) as bs) :
    Leads ((keepBehind shared before).reverse ++ .insert (back ++ shared) :: .keep kept :: rest)
      as bs := by
  subst hys hxs
  simpa [leads_iff, source, target] using h

variable [DecidableEq α]

/-- The end of an insertion that is found above it. -/
theorem take_append_slid (ys xs : List α) :
    xs.take (xs.length - agreement ys.reverse xs.reverse) ++
      ys.drop (ys.length - agreement ys.reverse xs.reverse) = xs := by
  rw [drop_agreement_reverse, List.take_append_drop]

/-- The front of an insertion that is found below it. -/
theorem slid_append_drop (ys xs : List α) :
    ys.take (agreement ys xs) ++ xs.drop (agreement ys xs) = xs := by
  rw [take_agreement, List.take_append_drop]

/-! ## Insertions -/

/-- An insertion that moves up leads where it led before. -/
theorem leads_raiseInsert {before after : Script α}
    (h : Leads (before.reverse ++ .insert xs :: after) as bs) :
    (raiseInsert before xs after).script.Leads as bs := by
  -- What lies above the insertion gets lighter with every move.
  induction hw : weight before using Nat.strong_induction_on generalizing before xs after with
  | _ w ih =>
  subst hw
  cases before with
  | nil =>
      rw [raiseInsert]
      exact h
  | cons e rest =>
      cases e with
      | insert ys =>
          rw [raiseInsert]
          apply ih _ (by simp only [weight]; omega) _ rfl
          simpa [leads_iff, source, target] using h
      | delete ys =>
          rw [raiseInsert]
          apply ih _ (by simp only [weight]; omega) _ rfl
          simpa [leads_iff, source, target] using h
      | keep ys =>
          have hxs := take_append_slid ys xs
          have hys := List.take_append_drop (ys.length - agreement ys.reverse xs.reverse) ys
          rw [raiseInsert]
          split
          · split
            · rename_i hempty
              apply ih _ (by simp only [weight]; omega) _ rfl
              simpa [leads_iff, source, target, List.isEmpty_iff.1 hempty] using h
            · exact h
          · -- Some of the kept items slide below, and perhaps nothing is left of them.
            have hmoved := leads_slideUp hys hxs h
            split
            · rename_i hall
              rw [Nat.sub_eq_zero_of_le hall, List.drop_zero, List.take_zero] at hmoved
              apply ih _ (by simp only [weight]; omega) _ rfl
              simpa [leads_iff, source, target] using hmoved
            · apply ih _ (by simp only [weight, List.length_take]; omega) _ rfl
              exact hmoved

/-- An insertion that moves down leads where it led before. -/
theorem leads_lowerInsert {before after : Script α}
    (h : Leads (before.reverse ++ .insert xs :: after) as bs) :
    (lowerInsert before xs after).script.Leads as bs := by
  -- What lies below the insertion gets lighter with every move.
  induction hw : weight after using Nat.strong_induction_on generalizing before xs after with
  | _ w ih =>
  subst hw
  cases after with
  | nil =>
      rw [lowerInsert]
      exact h
  | cons e rest =>
      cases e with
      | insert ys =>
          rw [lowerInsert]
          apply ih _ (by simp only [weight]; omega) _ rfl
          simpa [leads_iff, source, target] using h
      | delete ys =>
          rw [lowerInsert]
          apply ih _ (by simp only [weight]; omega) _ rfl
          simpa [leads_iff, source, target] using h
      | keep ys =>
          have hxs := slid_append_drop ys xs
          have hys := List.take_append_drop (agreement ys xs) ys
          rw [lowerInsert]
          split
          · split
            · rename_i hempty
              apply ih _ (by simp only [weight]; omega) _ rfl
              simpa [leads_iff, source, target, List.isEmpty_iff.1 hempty] using h
            · exact h
          · -- Some of the kept items slide above, and perhaps nothing is left of them.
            have hmoved := leads_slideDown hys hxs h
            split
            · rename_i hall
              rw [List.drop_eq_nil_of_le hall, List.take_of_length_le hall] at hmoved
              apply ih _ (by simp only [weight]; omega) _ rfl
              simpa [leads_iff, source, target] using hmoved
            · apply ih _ (by simp only [weight, List.length_drop]; omega) _ rfl
              exact hmoved

/-- An insertion that is settled leads where it led before. -/
theorem leads_settleInsert {before after : Script α}
    (h : Leads (before.reverse ++ .insert xs :: after) as bs) :
    (settleInsert before xs after).script.Leads as bs := by
  have hraised := leads_raiseInsert h
  unfold settleInsert
  split
  · rename_i heq
    rw [heq] at hraised
    exact leads_lowerInsert hraised
  · exact hraised

/-! ## Deletions -/

omit [DecidableEq α] in
/-- A deletion that moves up leads where it led before. -/
theorem leads_raiseDelete (before : Script α) : ∀ {xs : List α} {after : Script α},
    Leads (before.reverse ++ .delete xs :: after) as bs →
      (raiseDelete before xs after).script.Leads as bs := by
  induction before with
  | nil =>
      intro xs after h
      exact h
  | cons e rest ih =>
      intro xs after h
      cases e with
      | delete ys =>
          apply ih
          simpa [leads_iff, source, target] using h
      | insert ys =>
          apply ih
          simpa [leads_iff, source, target] using h
      | keep ys => exact h

omit [DecidableEq α] in
/-- A deletion that moves down leads where it led before. -/
theorem leads_lowerDelete (after : Script α) : ∀ {before : Script α} {xs : List α},
    Leads (before.reverse ++ .delete xs :: after) as bs →
      (lowerDelete before xs after).script.Leads as bs := by
  induction after with
  | nil =>
      intro before xs h
      exact h
  | cons e rest ih =>
      intro before xs h
      cases e with
      | delete ys =>
          apply ih
          simpa [leads_iff, source, target] using h
      | insert ys =>
          apply ih
          simpa [leads_iff, source, target] using h
      | keep ys => exact h

omit [DecidableEq α] in
/-- A deletion that is settled leads where it led before. -/
theorem leads_settleDelete {before after : Script α}
    (h : Leads (before.reverse ++ .delete xs :: after) as bs) :
    (settleDelete before xs after).script.Leads as bs := by
  have hraised := leads_raiseDelete before h
  unfold settleDelete
  split
  · rename_i heq
    rw [heq] at hraised
    exact leads_lowerDelete _ hraised
  · exact hraised

/-! ## Whole scripts -/

omit [DecidableEq α] in
theorem reverse_append_cursor (c : Cursor α) :
    (c.here :: c.before).reverse ++ c.after = c.script := by
  simp [Cursor.script]

omit [DecidableEq α] in
/-- Settling deletions, however many steps are taken, keeps both ends. -/
theorem leads_settleDeletes (steps : Nat) : ∀ before after : Script α,
    Leads (before.reverse ++ after) as bs → (settleDeletes steps before after).Leads as bs := by
  induction steps with
  | zero =>
      intro before after h
      exact h
  | succ steps ih =>
      intro before after h
      cases after with
      | nil => simpa [settleDeletes] using h
      | cons e rest =>
          cases e with
          | delete xs =>
              apply ih
              rw [reverse_append_cursor]
              exact leads_settleDelete h
          | insert xs => exact ih _ _ (by simpa using h)
          | keep xs => exact ih _ _ (by simpa using h)

/-- Settling insertions, however many steps are taken, keeps both ends. -/
theorem leads_settleInserts (steps : Nat) : ∀ before after : Script α,
    Leads (before.reverse ++ after) as bs → (settleInserts steps before after).Leads as bs := by
  induction steps with
  | zero =>
      intro before after h
      exact h
  | succ steps ih =>
      intro before after h
      cases after with
      | nil => simpa [settleInserts] using h
      | cons e rest =>
          cases e with
          | insert xs =>
              apply ih
              rw [reverse_append_cursor]
              exact leads_settleInsert h
          | delete xs => exact ih _ _ (by simpa using h)
          | keep xs => exact ih _ _ (by simpa using h)

/-- A script that is compacted leads where it led before. -/
theorem Leads.compact {s : Script α} (h : s.Leads as bs) : s.compact.Leads as bs := by
  have hdeletes := leads_settleDeletes (patience s) [] s h
  exact leads_settleInserts _ [] _ hdeletes

end Script
end Trainer
