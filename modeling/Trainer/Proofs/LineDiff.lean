import Mathlib
import Trainer.LineDiff

/-!
# A script between two lists

A script is good for a diff when it starts from the first list and arrives at the second one,
whatever edits it is made of (`Script.Leads`).  The script between two lists does
(`Script.leads_between`): the search for a middle snake only chooses where the lists are split, and
scripts for the parts make up a script for the whole however it was split (`Script.Leads.split`).
-/

namespace Trainer
namespace Script

variable {α : Type}

/-- A script starts from the first list and arrives at the second one. -/
structure Leads (s : Script α) (as bs : List α) : Prop where
  source : s.source = as
  target : s.target = bs

/-- Two scripts one behind the other lead from the joined lists to the joined lists. -/
theorem Leads.append {s t : Script α} {as bs as' bs' : List α} (hs : s.Leads as bs)
    (ht : t.Leads as' bs') : (s ++ t).Leads (as ++ as') (bs ++ bs') where
  source := by rw [source_append, hs.source, ht.source]
  target := by rw [target_append, hs.target, ht.target]

/-! ## Between two lists -/

theorem leads_keeping (xs : List α) : (keeping xs).Leads xs xs := by
  cases xs with
  | nil => exact ⟨rfl, rfl⟩
  | cons x xs => constructor <;> simp [keeping, source, target]

theorem leads_replacing (as bs : List α) : (replacing as bs).Leads as bs := by
  cases as with
  | nil => cases bs <;> constructor <;> simp [replacing, source, target]
  | cons a as => cases bs <;> constructor <;> simp [replacing, source, target]

/-- Scripts for the parts of two lists, however these were split. -/
theorem Leads.split {s t : Script α} {as bs : List α} {x y : Nat}
    (hs : s.Leads (as.take x) (bs.take y)) (ht : t.Leads (as.drop x) (bs.drop y)) :
    (s ++ t).Leads as bs := by
  have h := hs.append ht
  rwa [List.take_append_drop, List.take_append_drop] at h

/-- The part of a list that is left when `front` and `rear` items are taken off its ends. -/
def core (front rear : Nat) (as : List α) : List α :=
  (as.drop front).take ((as.drop front).length - rear)

/-- Kept ends around a script between the cores of two lists. -/
theorem Leads.around {as bs : List α} {inner : Script α} {front rear : Nat}
    (hfront : as.take front = bs.take front)
    (hrear : (as.drop front).drop ((as.drop front).length - rear) =
      (bs.drop front).drop ((bs.drop front).length - rear))
    (hinner : inner.Leads (core front rear as) (core front rear bs)) :
    (keeping (as.take front) ++ inner ++
      keeping ((as.drop front).drop ((as.drop front).length - rear))).Leads as bs := by
  have hall := ((leads_keeping (as.take front)).append hinner).append
    (leads_keeping ((as.drop front).drop ((as.drop front).length - rear)))
  constructor
  · refine hall.source.trans ?_
    rw [core, List.append_assoc, List.take_append_drop, List.take_append_drop]
  · refine hall.target.trans ?_
    rw [hfront, hrear, core, List.append_assoc, List.take_append_drop, List.take_append_drop]

variable [DecidableEq α]

/-- The ends on which two lists agree. -/
theorem drop_agreement_reverse (as bs : List α) :
    as.drop (as.length - agreement as.reverse bs.reverse) =
      bs.drop (bs.length - agreement as.reverse bs.reverse) := by
  have h := take_agreement as.reverse bs.reverse
  rw [List.take_reverse, List.take_reverse] at h
  exact List.reverse_injective h

/-- However the two lists are split, the parts make up the script. -/
theorem leads_betweenWithin (depth : Nat) : ∀ as bs : List α,
    (betweenWithin depth as bs).Leads as bs := by
  induction depth with
  | zero =>
      intro as bs
      exact leads_replacing as bs
  | succ depth ih =>
      intro as bs
      rw [betweenWithin]
      refine Leads.around (take_agreement as bs) (drop_agreement_reverse _ _) ?_
      -- Between the ends that agree there is a replacement, or two scripts for the parts.
      split
      · exact leads_replacing _ _
      · split
        · exact leads_replacing _ _
        · exact (ih _ _).split (ih _ _)

/-- The script between two lists leads from the first to the second. -/
theorem leads_between (as bs : List α) : (between as bs).Leads as bs :=
  leads_betweenWithin _ as bs

end Script
end Trainer
