import Trainer.Number
import Trainer.Catalog
import Trainer.FileEvent
import Trainer.Session.Key
import Trainer.Toolchain
import Trainer.Verdict

/-!
# The session

A session is a state that messages change.  Whatever takes time is not done here but asked for by
an effect, and comes back as a message: `update` gives the next state and the effects.

At most one run is in flight (`Session.running`).  What would start another one meanwhile is
remembered (`Session.rerunPending`) and started once, when the run is over.
-/

namespace Trainer

/-- What the learner sees. -/
inductive View where
  | welcome
  | main
  | list
  | hint
deriving DecidableEq, Repr

def View.label : View → String
  | .welcome => "Welcome"
  | .main => "Main"
  | .list => "List"
  | .hint => "Hint"

/-- What a session reacts to. -/
inductive Message where
  | key (action : Action)
  | tick
  | runStarted (exercise : String)
  | runFinished (exercise : String) (verdict : Verdict)
  | fileChanged (event : FileEvent)
  | watchError (error : String)
  /-- No event will come any more. -/
  | watcherClosed
deriving DecidableEq, Repr

/-- What a session asks for. -/
inductive Effect where
  | run (exercise : Exercise)
  /-- Wait for exactly one more event. -/
  | awaitFileEvent
  | quit
deriving DecidableEq, Repr

/-- The state of a session. -/
structure Session where
  catalog : Catalog
  sourceExtension : String
  /-- The position of the exercise the learner is at. -/
  current : Nat
  view : View
  /-- The position of the cursor in the list. -/
  cursor : Nat
  /-- The exercise whose run is in flight. -/
  running : Option String
  /-- Whether to run again when the run in flight is over. -/
  rerunPending : Bool
  /-- The verdict of the run that was over last. -/
  latest : Option Verdict
  status : Option String
  watchError : Option String
  spinner : Nat
  quitting : Bool
deriving DecidableEq, Repr

namespace Session

/-- A session at the place where the learner goes on. -/
def ofCatalog (catalog : Catalog) (sourceExtension : String) : Session where
  catalog := catalog
  sourceExtension := sourceExtension
  current := catalog.resumePosition
  view := .welcome
  cursor := catalog.resumePosition
  running := none
  rerunPending := false
  latest := none
  status := none
  watchError := none
  spinner := 0
  quitting := false

/-! ## Questions -/

def currentExercise (s : Session) : Exercise :=
  s.catalog.exercises[s.current]?.getD default

/-- The latest verdict if it is on the exercise the learner is at. -/
def lastVerdict (s : Session) : Option Verdict :=
  s.latest.filter fun v => v.exercise == s.currentExercise.name

/-- Only a write to the source of the current exercise counts. -/
def accepts (s : Session) (e : FileEvent) : Bool :=
  e.kind == .write && Toolchain.hasExtension e.path s.sourceExtension &&
    e.path.same s.currentExercise.sourcePath

/-! ## Changes -/

def runningText (name : String) : String :=
  "Running " ++ name ++ "..."

def beginRun (s : Session) : Session × List Effect :=
  let e := s.currentExercise
  ({ s with running := some e.name, status := some (runningText e.name) }, [.run e])

/-- Starts a run, or remembers to do so when the run in flight is over. -/
def scheduleRun (s : Session) : Session × List Effect :=
  if s.running.isSome then ({ s with rerunPending := true }, []) else s.beginRun

def start (s : Session) : Session × List Effect :=
  match s.beginRun with
  | (s, effects) => (s, effects ++ [.awaitFileEvent])

variable {σ : Type}

/-- A step of a session on a host's state. -/
abbrev Step (σ : Type) := Session → σ → (Session × List Effect) × σ

/-- What is said when progress could not be stored. -/
def unsavedText (f : Catalog.Failure) : String :=
  "Could not save progress: " ++ f.message

/-- Goes to another exercise, stores that, and has it run. -/
def moveTo (store : ProgressStore σ) (i : Nat) : Step σ := fun s h =>
  let s := { s with current := i, cursor := i, status := none }
  match Catalog.setCurrent store s.currentExercise.name (s.catalog, h) with
  | (.ok (), (catalog, h)) => (scheduleRun { s with catalog }, h)
  | (.error f, (catalog, h)) => (scheduleRun { s with catalog, status := some (unsavedText f) }, h)

def goNext (store : ProgressStore σ) : Step σ := fun s h =>
  if s.current + 1 < s.catalog.size then moveTo store (s.current + 1) s h
  else (({ s with status := some "Already at the last exercise" }, []), h)

def goBack (store : ProgressStore σ) : Step σ := fun s h =>
  if 0 < s.current then moveTo store (s.current - 1) s h
  else (({ s with status := some "Already at the first exercise" }, []), h)

/-- Opens what is under the cursor, or goes to the main view. -/
def select (store : ProgressStore σ) : Step σ := fun s h =>
  if s.view = .list ∧ s.cursor ≠ s.current then moveTo store s.cursor { s with view := .main } h
  else (({ s with view := .main }, []), h)

/-- A view, or the main view if it is shown already. -/
def toggled (s : Session) (v : View) : View :=
  if s.view = v then .main else v

def act (store : ProgressStore σ) (a : Action) : Step σ := fun s h =>
  match a with
  | .quit => (({ s with quitting := true }, [.quit]), h)
  | .next => if s.view = .main then goNext store s h else ((s, []), h)
  | .previous => if s.view = .main then goBack store s h else ((s, []), h)
  | .toggleHint => (({ s with view := s.toggled .hint }, []), h)
  | .toggleList =>
      if s.view = .list then (({ s with view := .main }, []), h)
      else (({ s with view := .list, cursor := s.current }, []), h)
  | .run =>
      match s.running with
      | some name => (({ s with status := some (name ++ " is still running") }, []), h)
      | none => (s.beginRun, h)
  | .select => select store s h
  | .dismiss => (({ s with view := .main }, []), h)
  | .cursorUp =>
      if s.view = .list then (({ s with cursor := s.cursor - 1 }, []), h) else ((s, []), h)
  | .cursorDown =>
      if s.view = .list ∧ s.cursor + 1 < s.catalog.size then
        (({ s with cursor := s.cursor + 1 }, []), h)
      else ((s, []), h)

/-- Whether a success of an exercise would be its first. -/
def wouldComplete (s : Session) (name : String) : Bool :=
  match s.catalog.find? name with
  | some e => !e.completed
  | none => false

def finishedText (name : String) (success newly : Bool) (attempts : Nat) : String :=
  if success && newly then "✓ " ++ name ++ " completed! Press n for the next one"
  else if success then "✓ " ++ name ++ " passed"
  else "✗ " ++ name ++ " failed (attempt " ++ toString attempts ++ ")"

/-- Takes the verdict of a run that is over. -/
def finishRun (store : ProgressStore σ) (name : String) (v : Verdict) : Step σ := fun s h =>
  let newly := s.wouldComplete name
  let (answer, (catalog, h)) := Catalog.recordAttempt store name v.success (s.catalog, h)
  let status :=
    match answer with
    | .ok attempts => finishedText name v.success newly attempts
    | .error f => unsavedText f
  let s := { s with running := none, catalog, status := some status, latest := some v }
  -- What was asked for while the run was in flight is started now, and once.
  if s.rerunPending then (beginRun { s with rerunPending := false }, h) else ((s, []), h)

def stoppedText : String :=
  "file watcher stopped; press r to run manually"

/-- The number of ticks after which the count starts again. -/
def spinnerRange : Nat := twoTo 64

def update (store : ProgressStore σ) (m : Message) : Step σ := fun s h =>
  match m with
  | .key a => act store a s h
  | .tick => (({ s with spinner := (s.spinner + 1) % spinnerRange }, []), h)
  | .runStarted name =>
      (({ s with status := some (runningText name), running := some name }, []), h)
  | .runFinished name v => finishRun store name v s h
  | .fileChanged e =>
      let (s, effects) := if s.accepts e then s.scheduleRun else (s, [])
      ((s, effects ++ [.awaitFileEvent]), h)
  | .watchError error => (({ s with watchError := some error }, []), h)
  -- A learner who has quit needs no advice any more.
  | .watcherClosed =>
      (({ s with watchError := if s.quitting then s.watchError else some stoppedText }, []), h)

end Session
end Trainer
