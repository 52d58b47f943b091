import Mathlib
import Trainer.Proofs.Session.Position

/-!
# Looking for the current exercise

`currentExercise` gives a default when the position of a session is not one of its catalog.  That
this never happens is said by a second session, which does the same but gives up as soon as it looks
for an exercise where there is none (`Session.update?`).  It looks where `update` does: before and
after a move is stored, when a run is started, and when a write to a source has to be judged.

In range, the two sessions are one (`Session.InRange.update?_eq`); the states in between count as
well, so this says more than that the session before and the one after are in range.
-/

namespace Trainer
namespace Session

variable {σ : Type} {store : ProgressStore σ} {s : Session} {h : σ}

/-! ## The session that may give up -/

/-- The current exercise, if the position is one of the catalog. -/
def exercise? (s : Session) : Option Exercise :=
  s.catalog.exercises[s.current]?

def beginRun? (s : Session) : Option (Session × List Effect) := do
  let e ← s.exercise?
  return ({ s with running := some e.name, status := some (runningText e.name) }, [.run e])

/-- Starts a run, or remembers to do so when the run in flight is over. -/
def scheduleRun? (s : Session) : Option (Session × List Effect) :=
  if s.running.isSome then some ({ s with rerunPending := true }, []) else s.beginRun?

/-- Judges an event; the current exercise is asked for only if its source might have been written. -/
def accepts? (s : Session) (e : FileEvent) : Option Bool :=
  if e.kind == .write && Toolchain.hasExtension e.path s.sourceExtension then do
    let x ← s.exercise?
    return e.path.same x.sourcePath
  else some false

/-- Goes to another exercise, stores that, and has it run. -/
def moveTo? (store : ProgressStore σ) (i : Nat) (s : Session) (h : σ) :
    Option ((Session × List Effect) × σ) := do
  let s := { s with current := i, cursor := i, status := none }
  let e ← s.exercise?
  match Catalog.setCurrent store e.name (s.catalog, h) with
  | (.ok (), (catalog, h)) => return (← scheduleRun? { s with catalog }, h)
  | (.error f, (catalog, h)) =>
      return (← scheduleRun? { s with catalog, status := some (unsavedText f) }, h)

/-- Does what the learner wants; only a move and a run ask for an exercise. -/
def act? (store : ProgressStore σ) (a : Action) (s : Session) (h : σ) :
    Option ((Session × List Effect) × σ) :=
  match s.destination? a with
  | some i => moveTo? store i { s with view := .main } h
  | none =>
      if a = .run ∧ s.running = none then s.beginRun?.map (·, h) else some (act store a s h)

/-- Takes the verdict of a run that is over. -/
def finishRun? (store : ProgressStore σ) (name : String) (v : Verdict) (s : Session) (h : σ) :
    Option ((Session × List Effect) × σ) :=
  let newly := s.wouldComplete name
  let (answer, (catalog, h)) := Catalog.recordAttempt store name v.success (s.catalog, h)
  let status :=
    match answer with
    | .ok attempts => finishedText name v.success newly attempts
    | .error f => unsavedText f
  let s := { s with running := none, catalog, status := some status, latest := some v }
  if s.rerunPending then (beginRun? { s with rerunPending := false }).map (·, h)
  else some ((s, []), h)

/-- Reacts to a message, and gives up if it looks for an exercise where there is none. -/
def update? (store : ProgressStore σ) (m : Message) (s : Session) (h : σ) :
    Option ((Session × List Effect) × σ) :=
  match m with
  | .key a => act? store a s h
  | .runFinished name v => finishRun? store name v s h
  | .fileChanged e => do
      let accepted ← s.accepts? e
      let (s, effects) ← if accepted then s.scheduleRun? else some (s, [])
      return ((s, effects ++ [.awaitFileEvent]), h)
  | _ => some (update store m s h)

/-! ## It never gives up in range -/

theorem exercise?_of_lt (hs : s.current < s.catalog.size) : s.exercise? = some s.currentExercise := by
  have hlt : s.current < s.catalog.exercises.length := hs
  simp [exercise?, currentExercise, List.getElem?_eq_getElem hlt]

theorem beginRun?_of_lt (hs : s.current < s.catalog.size) : s.beginRun? = some s.beginRun := by
  rw [beginRun?, exercise?_of_lt hs]
  rfl

theorem scheduleRun?_of_lt (hs : s.current < s.catalog.size) :
    s.scheduleRun? = some s.scheduleRun := by
  unfold scheduleRun? scheduleRun
  split
  · rfl
  · exact beginRun?_of_lt hs

theorem accepts?_of_lt (hs : s.current < s.catalog.size) (e : FileEvent) :
    s.accepts? e = some (s.accepts e) := by
  unfold accepts? accepts
  split
  · rename_i hwrite
    rw [exercise?_of_lt hs, hwrite, Bool.true_and]
    rfl
  · rename_i hother
    rw [Bool.not_eq_true] at hother
    rw [hother, Bool.false_and]

/-- A move looks for the exercise that it leads to, and again after the catalog was changed. -/
theorem moveTo?_of_lt {i : Nat} (hi : i < s.catalog.size) :
    moveTo? store i s h = some (moveTo store i s h) := by
  have hfirst : exercise? { s with current := i, cursor := i, status := none } =
      some (currentExercise { s with current := i, cursor := i, status := none }) :=
    exercise?_of_lt hi
  simp only [moveTo?, hfirst, Option.bind_eq_bind, Option.bind_some, moveTo]
  rcases hset : Catalog.setCurrent store
    (currentExercise { s with current := i, cursor := i, status := none }).name
    (s.catalog, h) with ⟨answer, catalog, h'⟩
  have hsize : catalog.size = s.catalog.size := (Catalog.moved_of_eq hset).size
  have hlater : i < catalog.size := hsize ▸ hi
  cases answer with
  | ok u =>
      have hrun := scheduleRun?_of_lt
        (s := { s with current := i, cursor := i, status := none, catalog }) hlater
      simp only [hrun, Option.bind_some]
      rfl
  | error f =>
      have hrun := scheduleRun?_of_lt
        (s := { s with current := i, cursor := i, catalog, status := some (unsavedText f) }) hlater
      simp only [hrun, Option.bind_some]
      rfl

/-- In range, no key fails. -/
theorem InRange.act?_eq (hs : InRange s) (a : Action) :
    act? store a s h = some (act store a s h) := by
  unfold act?
  cases hdest : s.destination? a with
  | some i =>
      have hi : i < s.catalog.size := destination?_lt hs.current_lt hs.cursor_lt hdest
      rw [act_of_destination? hdest]
      exact moveTo?_of_lt (s := { s with view := .main }) hi
  | none =>
      dsimp only
      split
      · rename_i hrun
        obtain ⟨rfl, hidle⟩ := hrun
        simp [beginRun?_of_lt hs.current_lt, act, hidle]
      · rfl

theorem finishRun?_of_lt (hs : s.current < s.catalog.size) (name : String) (v : Verdict) :
    finishRun? store name v s h = some (finishRun store name v s h) := by
  simp only [finishRun?, finishRun]
  rcases hcount : Catalog.recordAttempt store name v.success (s.catalog, h) with
    ⟨answer, catalog, h'⟩
  have hnames : catalog.names = s.catalog.names := (Catalog.counted_of_eq hcount).names
  have hlater : s.current < catalog.size := by
    rw [Catalog.size_eq_length_names, hnames, ← Catalog.size_eq_length_names]
    exact hs
  split
  · rw [beginRun?_of_lt hlater]
    rfl
  · rfl

/-- In range, a session finds an exercise wherever it looks for the current one. -/
theorem InRange.update?_eq (hs : InRange s) (m : Message) :
    update? store m s h = some (Session.update store m s h) := by
  cases m with
  | key a => exact hs.act?_eq a
  | runFinished name v => exact finishRun?_of_lt hs.current_lt name v
  | fileChanged e =>
      simp only [update?, Session.update, accepts?_of_lt hs.current_lt, scheduleRun?_of_lt hs.current_lt,
        Option.bind_eq_bind, Option.bind_some]
      split
      · rfl
      · rfl
  | tick => rfl
  | runStarted name => rfl
  | watchError error => rfl
  | watcherClosed => rfl

end Session
end Trainer
