import Mathlib
import Trainer.Proofs.Catalog.Completion
import Trainer.Proofs.Session.EventLoop

/-!
# Failed saves and what is said of them

A message makes a session do at most one operation of its catalog: it moves the pointer to another
exercise, or it counts an attempt (`Session.call?`, `Session.update_performs`).  When the operation
fails, the session says so.  But the message may go on to start a run, and what is said of the run
then stands in the place of the report: the report is left exactly if no run is started
(`Session.reportsUnsaved_iff`).

## The cases

* A move starts a run when none is in flight, the end of a run when another one was remembered
  (`Session.StartsRun`).
* What a failed move and a failed count leave is said once for both: a session with the report in it
  either stays as it is or begins a run (`Session.Settles`).
-/

namespace Trainer

namespace Catalog

variable {σ : Type}

/-- What an answer complains of, if it is a failure. -/
def complaint? {α : Type} : Except Failure α → Option Failure
  | .ok _ => none
  | .error f => some f

theorem eq_error_of_complaint? {α : Type} {r : Except Failure α} {f : Failure}
    (h : complaint? r = some f) : r = .error f := by
  cases r with
  | ok a => cases h
  | error f' => exact congrArg Except.error (Option.some.inj h)

/-- Why a call fails, if it does. -/
def Call.failure? (store : ProgressStore σ) (call : Call) (cs : Catalog × σ) : Option Failure :=
  match call with
  | .markCompleted name => complaint? (Catalog.markCompleted store name cs).1
  | .recordAttempt name success => complaint? (Catalog.recordAttempt store name success cs).1
  | .setCurrent name => complaint? (Catalog.setCurrent store name cs).1

end Catalog

namespace Session

variable {σ : Type} {store : ProgressStore σ} {s : Session} {h : σ}

/-! ## What a message asks of the catalog -/

def nameAt (s : Session) (i : Nat) : String :=
  (s.catalog.exercises[i]?.getD default).name

/-- The operation of the catalog that a message makes a session do. -/
def call? (s : Session) : Message → Option Catalog.Call
  | .key a => (s.destination? a).map fun i => .setCurrent (s.nameAt i)
  | .runFinished name v => some (.recordAttempt name v.success)
  | _ => none

theorem moveTo_performs (i : Nat) :
    ((moveTo store i s h).1.1.catalog, (moveTo store i s h).2) =
      (Catalog.setCurrent store (s.nameAt i) (s.catalog, h)).2 := by
  have hname : currentExercise { s with current := i, cursor := i, status := none } =
      s.catalog.exercises[i]?.getD default := rfl
  simp only [moveTo, hname, nameAt]
  split
  · rename_i hset
    rw [scheduleRun_catalog, hset]
  · rename_i hset
    rw [scheduleRun_catalog, hset]

/-- A message does the operation that it asks for, and nothing else to the catalog. -/
theorem update_performs (m : Message) :
    ((update store m s h).1.1.catalog, (update store m s h).2) =
      (s.call? m).elim (s.catalog, h) fun call => (call.perform store (s.catalog, h)).2 := by
  cases m with
  | key a =>
      cases hdest : s.destination? a with
      | none =>
          obtain ⟨x, hstays, hact⟩ := act_of_no_destination hdest
          have hstill : update store (.key a) s h = (x, h) := hact σ store h
          rw [hstill, hstays.catalog]
          simp only [call?, hdest, Option.map_none, Option.elim_none]
      | some i =>
          have hact : update store (.key a) s h = moveTo store i { s with view := .main } h :=
            act_of_destination? hdest
          rw [hact, moveTo_performs]
          simp only [call?, hdest, Option.map_some, Option.elim_some]
          rfl
  | runFinished name v =>
      simp only [update, finishRun]
      split
      · rfl
      · rfl
  | fileChanged e =>
      simp only [update]
      split
      · rw [scheduleRun_catalog]
        rfl
      · rfl
  | tick => rfl
  | runStarted name => rfl
  | watchError error => rfl
  | watcherClosed => rfl

/-! ## What is said in the end -/

/-- The status says that progress could not be stored. -/
def ReportsUnsaved (s : Session) : Prop :=
  s.status.any (Text.startsWith "Could not save progress") = true

instance (s : Session) : Decidable s.ReportsUnsaved :=
  inferInstanceAs (Decidable (_ = true))

/-- Whether the operation of a message is followed by a run that is started. -/
def StartsRun (s : Session) : Message → Prop
  | .runFinished _ _ => s.rerunPending = true
  | _ => s.running = none

/-- The last step of a message: a report stands as it is, or it gives way to that of a run. -/
structure Settles (f : Catalog.Failure) (starts : Prop) (x : Session × List Effect) : Prop where
  reported : ¬ starts → x.1.status = some (unsavedText f) ∧ runs x.2 = []
  replaced : starts → x.1.status = some (runningText x.1.currentExercise.name) ∧
    runs x.2 = [x.1.currentExercise]

/-- A report of an unsaved change stays in view unless a run begins. -/
theorem scheduleRun_settles {f : Catalog.Failure} {t : Session}
    (hreport : t.status = some (unsavedText f)) (hrun : t.running = s.running) :
    Settles f (s.running = none) t.scheduleRun := by
  constructor
  · intro hbusy
    have hsome : t.running.isSome = true := by
      rw [hrun]
      exact Option.isSome_iff_ne_none.2 hbusy
    simpa [scheduleRun, hsome] using hreport
  · intro hidle
    simp [scheduleRun, hrun, hidle, beginRun, currentExercise]

/-- A move that could not be saved reports it, unless a run begins. -/
theorem moveTo_settles {f : Catalog.Failure} {i : Nat}
    (hfail : (Catalog.setCurrent store (s.nameAt i) (s.catalog, h)).1 = .error f) :
    Settles f (s.running = none) (moveTo store i s h).1 := by
  have hname : currentExercise { s with current := i, cursor := i, status := none } =
      s.catalog.exercises[i]?.getD default := rfl
  rw [nameAt] at hfail
  simp only [moveTo, hname]
  split
  · rename_i hset
    rw [hset] at hfail
    cases hfail
  · rename_i hset
    rw [hset] at hfail
    cases hfail
    -- The report is in the session before it is decided whether a run is started.
    exact scheduleRun_settles rfl rfl

/-- An attempt that could not be saved is reported, unless a run begins. -/
theorem finishRun_settles {f : Catalog.Failure} {name : String} {v : Verdict}
    (hfail : (Catalog.recordAttempt store name v.success (s.catalog, h)).1 = .error f) :
    Settles f (s.rerunPending = true) (finishRun store name v s h).1 := by
  constructor
  · intro hno
    simp [finishRun, hfail, hno]
  · intro hpending
    simp [finishRun, hpending, beginRun, currentExercise]

/-- A message whose save failed reports it, unless a run begins. -/
theorem update_settles {m : Message} {call : Catalog.Call} {f : Catalog.Failure}
    (hcall : s.call? m = some call)
    (hfail : call.failure? store (s.catalog, h) = some f) :
    Settles f (s.StartsRun m) (update store m s h).1 := by
  cases m with
  | key a =>
      obtain ⟨i, hdest, rfl⟩ := Option.map_eq_some_iff.1 hcall
      have hact : update store (.key a) s h = moveTo store i { s with view := .main } h :=
        act_of_destination? hdest
      rw [hact]
      exact moveTo_settles (s := { s with view := .main }) (Catalog.eq_error_of_complaint? hfail)
  | runFinished name v =>
      cases hcall
      exact finishRun_settles (Catalog.eq_error_of_complaint? hfail)
  | tick => cases hcall
  | runStarted name => cases hcall
  | fileChanged e => cases hcall
  | watchError error => cases hcall
  | watcherClosed => cases hcall

/-- The report of an unsaved change can be told by its beginning. -/
theorem startsWith_unsavedText (f : Catalog.Failure) :
    Text.startsWith "Could not save progress" (unsavedText f) = true := by
  have hsplit : unsavedText f = "Could not save progress" ++ (": " ++ f.message) := by
    rw [← String.append_assoc]
    rfl
  rw [Text.startsWith, hsplit, List.isPrefixOf_iff_prefix, String.toList_append]
  exact List.prefix_append _ _

/-- The word that a run has begun is no report of an unsaved change. -/
theorem not_startsWith_runningText (name : String) :
    Text.startsWith "Could not save progress" (runningText name) = false := by
  have hfront : (runningText name).toList = 'R' :: ("unning " ++ name ++ "...").toList := by
    simp [runningText]
  rw [Text.startsWith, hfront]
  rfl

/--
When the operation of a message fails, the status says so exactly if no run is started after it.
Otherwise the status speaks of that run, which is one of the exercise that is current then.
-/
theorem reportsUnsaved_iff {m : Message} {call : Catalog.Call} {f : Catalog.Failure}
    (hcall : s.call? m = some call)
    (hfail : call.failure? store (s.catalog, h) = some f) :
    ((update store m s h).1.1.catalog, (update store m s h).2) =
      (call.perform store (s.catalog, h)).2 ∧
    ((update store m s h).1.1.ReportsUnsaved ↔ ¬ s.StartsRun m) ∧
    (¬ s.StartsRun m → (update store m s h).1.1.status = some (unsavedText f) ∧
      runs (update store m s h).1.2 = []) ∧
    (s.StartsRun m → (update store m s h).1.1.status =
        some (runningText (update store m s h).1.1.currentExercise.name) ∧
      runs (update store m s h).1.2 = [(update store m s h).1.1.currentExercise]) := by
  have hperform : ((update store m s h).1.1.catalog, (update store m s h).2) =
      (call.perform store (s.catalog, h)).2 := by
    rw [update_performs, hcall]
    rfl
  have hsettles : Settles f (s.StartsRun m) (update store m s h).1 := update_settles hcall hfail
  refine ⟨hperform, ?_, hsettles.reported, hsettles.replaced⟩
  constructor
  · intro hreport hstarts
    rw [ReportsUnsaved, (hsettles.replaced hstarts).1, Option.any_some,
      not_startsWith_runningText] at hreport
    cases hreport
  · intro hno
    rw [ReportsUnsaved, (hsettles.reported hno).1, Option.any_some]
    exact startsWith_unsavedText f

end Session

/-! ## Moves without room -/

namespace EventLoop

open Catalog Session

/-- A catalog of two shell exercises. -/
def twoExercises : Catalog where
  exercises := [
    { (default : Exercise) with name := "first", sourcePath := ⟨"/e/first.sh"⟩ },
    { (default : Exercise) with name := "second", sourcePath := ⟨"/e/second.sh"⟩ }]
  progress := Progress.fresh
  progressFile := ⟨"/k/progress.toml"⟩

/-- A store in whose place for new files a directory stands. -/
def refusing : ProgressStore Unit where
  now := fun _ => default
  save := fun _ => Act.fail (.unwritten ⟨"/k/progress.toml.tmp"⟩ .isDirectory)

/-- The failure of every save there. -/
def refusal : Catalog.Failure :=
  .unsaved (.unwritten ⟨"/k/progress.toml.tmp"⟩ .isDirectory)

/-- The first run has begun. -/
def begun : Session :=
  (update refusing (.runStarted "first") (start twoExercises "sh").session ()).1.1

/-- The learner is in the main view meanwhile. -/
def watching : Session :=
  (update refusing (.key .dismiss) begun ()).1.1

/-- The first run is over and has failed. -/
def resting : Session :=
  (update refusing (.runFinished "first" (Verdict.start "first")) watching ()).1.1

/-- A turn leads from a loop that is reached to another one. -/
theorem Reached.exists_take {σ : Type} {store : ProgressStore σ} {c : Catalog} {extension : String}
    {turns : List Turn} {l : EventLoop} {m : Message} {left flights : List Flight} {h : σ}
    (hl : Reached store c extension turns l) (hdue : Due l.flights m left)
    (hflights : left ++ launch (runs (update store m l.session h).1.2) = flights) :
    ∃ turns, Reached store c extension turns ⟨(update store m l.session h).1.1, flights⟩ := by
  subst hflights
  exact ⟨_, .step hl (.take h hdue)⟩

theorem reached_watching : ∃ turns, Reached refusing twoExercises "sh" turns
    ⟨watching, [⟨twoExercises.exercises[0], true⟩]⟩ := by
  have hbegun : Due (start twoExercises "sh").flights (.runStarted "first")
      [⟨twoExercises.exercises[0], true⟩] := .begun [] [] twoExercises.exercises[0]
  obtain ⟨turns, hl⟩ : ∃ turns, Reached refusing twoExercises "sh" turns
      ⟨begun, [⟨twoExercises.exercises[0], true⟩]⟩ :=
    Reached.start.exists_take hbegun rfl
  exact hl.exists_take (.other rfl) rfl

theorem reached_resting : ∃ turns, Reached refusing twoExercises "sh" turns ⟨resting, []⟩ := by
  obtain ⟨turns, hl⟩ := reached_watching
  have hended : Due [⟨twoExercises.exercises[0], true⟩]
      (.runFinished "first" (Verdict.start "first")) [] :=
    .ended [] [] twoExercises.exercises[0] (Verdict.start "first")
  exact hl.exists_take hended rfl

/-- While the first run is in flight, a move that cannot be stored is reported. -/
theorem reportsUnsaved_iff_watching :
    (∃ turns flights, Reached refusing twoExercises "sh" turns ⟨watching, flights⟩) ∧
      watching.call? (.key .next) = some (.setCurrent "second") ∧
      (Call.setCurrent "second").failure? refusing (watching.catalog, ()) = some refusal ∧
      (update refusing (.key .next) watching ()).1.1.ReportsUnsaved := by
  obtain ⟨turns, hl⟩ := reached_watching
  have hcall : watching.call? (.key .next) = some (.setCurrent "second") := by
    decide +kernel
  have hfail : (Call.setCurrent "second").failure? refusing (watching.catalog, ()) =
      some refusal := by
    decide +kernel
  have hbusy : ¬ watching.StartsRun (.key .next) := by
    intro hidle
    cases hidle
  exact ⟨⟨turns, _, hl⟩, hcall, hfail, (reportsUnsaved_iff hcall hfail).2.1.2 hbusy⟩

/-- Once that run is over, the same move starts a run, and nothing is said of the failed save. -/
theorem unsaved_not_reported :
    (∃ turns flights, Reached refusing twoExercises "sh" turns ⟨resting, flights⟩) ∧
      resting.call? (.key .next) = some (.setCurrent "second") ∧
      (Call.setCurrent "second").failure? refusing (resting.catalog, ()) = some refusal ∧
      (update refusing (.key .next) resting ()).1.1.status = some "Running second..." ∧
      ¬ (update refusing (.key .next) resting ()).1.1.ReportsUnsaved := by
  obtain ⟨turns, hl⟩ := reached_resting
  refine ⟨⟨turns, _, hl⟩, ?_⟩
  decide +kernel

end EventLoop
end Trainer
