import Trainer.Progress
import Trainer.Exercise

/-!
# The catalog

The exercises of a project in their order, with the learner's progress.  The completion flag of
every exercise, the progress in memory and the stored progress are kept in step: a completion that
cannot be stored is taken back (`Catalog.markCompleted`).
-/

namespace Trainer

/-- The exercises of a project and the learner's progress. -/
structure Catalog where
  exercises : List Exercise
  progress : Progress
  progressFile : Path
deriving DecidableEq, Repr, Inhabited

structure ProgressStats where
  completed : Nat
  total : Nat
deriving DecidableEq, Repr

namespace ProgressStats

/-- The completed share in percent, as a double. -/
def percentage (s : ProgressStats) : Binary64 :=
  if s.total = 0 then ⟨0, 0⟩
  else ((Binary64.ofNat s.completed).div (Binary64.ofNat s.total)).mul (Binary64.ofNat 100)

/-- The percentage without places. -/
def rounded (s : ProgressStats) : String :=
  s.percentage.fixed 0

end ProgressStats

namespace Catalog

/-! ## Questions -/

def size (c : Catalog) : Nat := c.exercises.length

def position? (c : Catalog) (name : String) : Option Nat :=
  c.exercises.findIdx? fun e => e.name == name

def find? (c : Catalog) (name : String) : Option Exercise :=
  c.exercises.find? fun e => e.name == name

/-- The first exercise that is not completed. -/
def nextIncomplete (c : Catalog) : Option Exercise :=
  c.exercises.find? fun e => !e.completed

/-- Where the learner goes on: at the pointer, else at the first incomplete exercise, else first. -/
def resumePosition (c : Catalog) : Nat :=
  match c.progress.currentExercise.bind c.position? with
  | some i => i
  | none => (c.exercises.findIdx? fun e => !e.completed).getD 0

def stats (c : Catalog) : ProgressStats :=
  ⟨c.exercises.countP (·.completed), c.exercises.length⟩

/-! ## Changes -/

inductive Failure where
  | notFound (name : String)
  | unsaved (cause : Progress.SaveFailure)
deriving DecidableEq, Repr

def Failure.message : Failure → String
  | .notFound name => "exercise '" ++ name ++ "' not found"
  | .unsaved cause => cause.message

/-- The catalog with another completion flag at a position. -/
def setFlag (c : Catalog) (i : Nat) (done : Bool) : Catalog :=
  { c with exercises := c.exercises.modify i fun e => { e with completed := done } }

def flagAt (c : Catalog) (i : Nat) : Bool :=
  (c.exercises[i]?.map (·.completed)).getD false

variable {σ : Type}

/--
Marks an exercise completed and stores that; false if it already was, in memory and in the record.
If it cannot be stored, the flag and the record are as before.
-/
def markCompleted (store : ProgressStore σ) (name : String) : Act (Catalog × σ) Failure Bool :=
  fun (c, s) =>
    match c.position? name with
    | none => (.error (.notFound name), (c, s))
    | some i =>
        if c.flagAt i && c.progress.isCompleted name then (.ok false, (c, s))
        else
          let marked : Catalog :=
            { c.setFlag i true with progress := c.progress.setCompleted name (store.now s) }
          match store.save marked.progress s with
          | (.ok (), s) => (.ok true, (marked, s))
          -- The record was never replaced, and the flag goes back to what the record says.
          | (.error cause, s) =>
              (.error (.unsaved cause), (c.setFlag i (c.progress.isCompleted name), s))

/-- Counts an attempt; a successful one also marks the exercise completed.  Gives the new count. -/
def recordAttempt (store : ProgressStore σ) (name : String) (success : Bool) :
    Act (Catalog × σ) Failure Nat :=
  fun (c, s) =>
    match c.position? name with
    | none => (.error (.notFound name), (c, s))
    | some i =>
        let counted : Catalog :=
          { c with exercises := c.exercises.modify i fun e => e.recordAttempt (store.now s) }
        let attempts := (counted.exercises[i]?.map (·.attempts)).getD 0
        if success then
          match markCompleted store name (counted, s) with
          | (.ok _, cs) => (.ok attempts, cs)
          | (.error e, cs) => (.error e, cs)
        else (.ok attempts, (counted, s))

/-- Moves the pointer to an exercise; it is stored only if it was elsewhere. -/
def setCurrent (store : ProgressStore σ) (name : String) : Act (Catalog × σ) Failure Unit :=
  fun (c, s) =>
    match c.position? name with
    | none => (.error (.notFound name), (c, s))
    | some _ =>
        if c.progress.currentExercise = some name then (.ok (), (c, s))
        else
          let moved : Catalog := { c with progress := c.progress.setCurrent name (store.now s) }
          match store.save moved.progress s with
          | (.ok (), s) => (.ok (), (moved, s))
          | (.error cause, s) => (.error (.unsaved cause), (moved, s))

end Catalog
end Trainer
