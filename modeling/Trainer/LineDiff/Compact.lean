import Trainer.LineDiff

/-!
# Compaction of edit scripts

A script can often be told with fewer edits: an insertion slides over kept items that equal its
own ends, past deletions, and joins other insertions it meets; deletions join across insertions.
`Script.compact` does this for every deletion and then for every insertion.
-/

namespace Trainer
namespace Script

variable {α : Type} [DecidableEq α]

/-- A script opened at one edit. -/
structure Cursor (α : Type) where
  /-- What comes before, nearest first. -/
  before : Script α
  here : Edit α
  after : Script α

namespace Cursor

def script (c : Cursor α) : Script α :=
  c.before.reverse ++ c.here :: c.after

end Cursor

/-- Puts kept items in front of a script, into the edit there if it keeps as well. -/
def keepFront (xs : List α) : Script α → Script α
  | .keep ys :: rest => .keep (xs ++ ys) :: rest
  | rest => .keep xs :: rest

/-- Puts kept items behind a reversed script, into the edit there if it keeps as well. -/
def keepBehind (xs : List α) : Script α → Script α
  | .keep ys :: rest => .keep (ys ++ xs) :: rest
  | rest => .keep xs :: rest

/-- The size of a script: its edits and kept items. -/
def weight : Script α → Nat
  | [] => 0
  | .keep xs :: rest => xs.length + 1 + weight rest
  | _ :: rest => 1 + weight rest

/-- Moves an insertion of `xs` up, past deletions, other insertions and equal kept items. -/
def raiseInsert (before : Script α) (xs : List α) (after : Script α) : Cursor α :=
  match before with
  | [] => ⟨[], .insert xs, after⟩
  | .insert ys :: rest => raiseInsert rest (ys ++ xs) after
  | .delete ys :: rest => raiseInsert rest xs (.delete ys :: after)
  | .keep ys :: rest =>
      let s := agreement ys.reverse xs.reverse
      if s = 0 then
        -- No end of the insertion is found above it, so this is its place.
        if ys.isEmpty then raiseInsert rest xs after
        else ⟨.keep ys :: rest, .insert xs, after⟩
      else if ys.length ≤ s then
        -- All the kept items slide below the insertion.
        raiseInsert rest (ys ++ xs.take (xs.length - s)) (keepFront ys after)
      else
        -- Only the last of the kept items slide below it.
        raiseInsert (.keep (ys.take (ys.length - s)) :: rest)
          (ys.drop (ys.length - s) ++ xs.take (xs.length - s))
          (keepFront (ys.drop (ys.length - s)) after)
termination_by weight before
decreasing_by
  all_goals simp only [weight, List.length_take]
  all_goals omega

/-- Moves an insertion of `xs` down, past deletions, other insertions and equal kept items. -/
def lowerInsert (before : Script α) (xs : List α) (after : Script α) : Cursor α :=
  match after with
  | [] => ⟨before, .insert xs, []⟩
  | .insert ys :: rest => lowerInsert before (xs ++ ys) rest
  | .delete ys :: rest => lowerInsert (.delete ys :: before) xs rest
  | .keep ys :: rest =>
      let s := agreement ys xs
      if s = 0 then
        if ys.isEmpty then lowerInsert before xs rest
        else ⟨before, .insert xs, .keep ys :: rest⟩
      else if ys.length ≤ s then
        -- All the kept items slide above the insertion.
        lowerInsert (keepBehind ys before) (xs.drop s ++ ys) rest
      else
        -- Only the first of the kept items slide above it.
        lowerInsert (keepBehind (ys.take s) before) (xs.drop s ++ ys.take s)
          (.keep (ys.drop s) :: rest)
termination_by weight after
decreasing_by
  all_goals simp only [weight, List.length_drop]
  all_goals omega

/-- Moves a deletion of `xs` up, past insertions and other deletions. -/
def raiseDelete : Script α → List α → Script α → Cursor α
  | .delete ys :: rest, xs, after => raiseDelete rest (ys ++ xs) after
  | .insert ys :: rest, xs, after => raiseDelete rest xs (.insert ys :: after)
  | before, xs, after => ⟨before, .delete xs, after⟩

/-- Moves a deletion of `xs` down, past insertions and other deletions. -/
def lowerDelete (before : Script α) (xs : List α) : Script α → Cursor α
  | .delete ys :: rest => lowerDelete before (xs ++ ys) rest
  | .insert ys :: rest => lowerDelete (.insert ys :: before) xs rest
  | after => ⟨before, .delete xs, after⟩

/-- Moves a deletion up as far as it goes and then down as far as it goes. -/
def settleDelete (before : Script α) (xs : List α) (after : Script α) : Cursor α :=
  match raiseDelete before xs after with
  | ⟨before, .delete xs, after⟩ => lowerDelete before xs after
  | c => c

/-- Moves an insertion up as far as it goes and then down as far as it goes. -/
def settleInsert (before : Script α) (xs : List α) (after : Script α) : Cursor α :=
  match raiseInsert before xs after with
  | ⟨before, .insert xs, after⟩ => lowerInsert before xs after
  | c => c

/-- Settles every deletion from the front on. -/
def settleDeletes : Nat → Script α → Script α → Script α
  | 0, before, after => before.reverse ++ after
  | _ + 1, before, [] => before.reverse
  | steps + 1, before, .delete xs :: rest =>
      let c := settleDelete before xs rest
      settleDeletes steps (c.here :: c.before) c.after
  | steps + 1, before, e :: rest => settleDeletes steps (e :: before) rest

/-- Settles every insertion from the front on. -/
def settleInserts : Nat → Script α → Script α → Script α
  | 0, before, after => before.reverse ++ after
  | _ + 1, before, [] => before.reverse
  | steps + 1, before, .insert xs :: rest =>
      let c := settleInsert before xs rest
      settleInserts steps (c.here :: c.before) c.after
  | steps + 1, before, e :: rest => settleInserts steps (e :: before) rest

/-- A number of steps that is enough to settle every edit of a script. -/
def patience (s : Script α) : Nat :=
  (weight s + 1) * (weight s + 1)

/-- Settles every deletion, then every insertion. -/
def compact (s : Script α) : Script α :=
  let settled := settleDeletes (patience s) [] s
  settleInserts (patience settled) [] settled

end Script
end Trainer
