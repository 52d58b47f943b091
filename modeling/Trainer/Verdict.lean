import Trainer.Duration
import Trainer.Marker

/-!
# Verdicts

What a validation of an exercise found: the phases that ran, and the first failure.  A verdict is
built by `addPhase`, `fail` and `finish`; it is a success when something ran, everything that ran
passed, and nothing failed besides.
-/

namespace Trainer

/-- A stage of a validation. -/
inductive Phase where
  | build
  | test
  | run
  | static
  | todoScan
deriving DecidableEq, Repr, Inhabited

def Phase.label : Phase → String
  | .build => "build"
  | .test => "test"
  | .run => "run"
  | .static => "static"
  | .todoScan => "todo-scan"

/-- What one phase found. -/
structure PhaseReport where
  phase : Phase
  success : Bool
  output : String
  timedOut : Bool
  duration : Duration
deriving DecidableEq, Repr, Inhabited

/-- What a validation found. -/
structure Verdict where
  exercise : String
  success : Bool
  /-- The phases that ran, in their order. -/
  phases : List PhaseReport
  /-- The output of the last phase that has output. -/
  output : String
  /-- The first failure. -/
  error : Option String
  /-- The markers that are left in the source. -/
  todos : List Marker
  duration : Duration
deriving DecidableEq, Repr, Inhabited

namespace Verdict

/-- The verdict before anything has run. -/
def start (exercise : String) : Verdict where
  exercise := exercise
  success := false
  phases := []
  output := ""
  error := none
  todos := []
  duration := Duration.zero

/-- Adds a phase; its output is the verdict's from now on. -/
def addPhase (v : Verdict) (r : PhaseReport) : Verdict :=
  { v with phases := v.phases ++ [r], output := r.output }

/-- Notes a failure unless there is one already. -/
def fail (v : Verdict) (message : String) : Verdict :=
  { v with error := v.error.or (some message) }

/-- Seals the verdict. -/
def finish (v : Verdict) (duration : Duration) : Verdict :=
  { v with
    duration := duration
    success := v.error.isNone && !v.phases.isEmpty && v.phases.all (·.success) }

def phase? (v : Verdict) (p : Phase) : Option PhaseReport :=
  v.phases.find? fun r => r.phase == p

/-- Whether a phase ran into its time limit. -/
def timedOut (v : Verdict) : Bool :=
  v.phases.any (·.timedOut)

/-- What the learner is shown: the failure, then the output unless the failure has it already. -/
def feedback (v : Verdict) : String :=
  let output := Text.trimEnd v.output
  match v.error with
  | none => output
  | some error =>
      if output = "" ∨ Text.occursIn output error = true then error
      else error ++ "\n\n" ++ output

def summary (v : Verdict) : String :=
  (if v.success then "PASSED" else "FAILED") ++ " - " ++ v.exercise ++ " (" ++
    v.duration.render ++ ")"

end Verdict
end Trainer
