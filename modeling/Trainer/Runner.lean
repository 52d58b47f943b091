import Trainer.Number
import Trainer.StaticCheck
import Trainer.Mismatch
import Trainer.Verdict

/-!
# Validation

A runner judges an exercise in steps: it prepares the directories, looks for the files that have to
be there, builds, checks what the exercise's mode asks for, and looks for markers.  A step gets the
verdict so far and says whether the validation goes on (`Step.andThen` joins them), so whatever
happens ends in one verdict.
-/

namespace Trainer

/-- What a validation needs to know beside the exercise. -/
structure Runner where
  toolchain : Toolchain
  checks : CheckTable
  defaultTimeout : Duration
  /-- Where built programs are put; an absolute path. -/
  artifactDir : Path
deriving DecidableEq, Repr, Inhabited

namespace Runner

/-- The runner of a configuration with an absolute root. -/
def ofConfig (c : Config) (checks : CheckTable) : Runner where
  toolchain := c.toolchain
  checks := checks
  defaultTimeout := c.defaultTimeout
  artifactDir := c.artifactDir.normal

/-! ## Places and limits -/

/-- The time limit of every command of an exercise. -/
def timeoutFor (r : Runner) (e : Exercise) : Duration :=
  e.validation.timeout.getD r.defaultTimeout

def artifactPath (r : Runner) (e : Exercise) : Path :=
  r.artifactDir.join e.name

/-- The test file that goes with an exercise. -/
def testPath (r : Runner) (e : Exercise) : Path :=
  e.dir.join (r.toolchain.testFileName e.stem)

def context (r : Runner) (e : Exercise) : CommandContext where
  source := e.sourcePath
  test := r.testPath e
  artifact := r.artifactPath e
  name := e.name

/-! ## Failures of the surroundings -/

/-- What kept a validation from going on, apart from the learner's source. -/
inductive Failure where
  | artifactDir (path : Path) (cause : IoError)
  | scaffold (path : Path) (cause : IoError)
  | spawn (command : String) (cause : IoError)
  | check (id : String) (cause : CheckFailure)
  | unreadable (path : Path) (cause : IoError)
deriving DecidableEq, Repr

def Failure.message : Failure → String
  | .artifactDir path cause =>
      "Failed to create artifact directory " ++ path.text ++ ": " ++ cause.message
  | .scaffold path cause => "Failed to create " ++ path.text ++ ": " ++ cause.message
  | .spawn command cause => "Failed to spawn command: " ++ command ++ ": " ++ cause.message
  | .check id cause => "Static check '" ++ id ++ "' could not run: " ++ cause.message
  | .unreadable path cause => "Failed to read " ++ path.text ++ ": " ++ cause.message

variable {σ : Type}

/-! ## Preparation -/

/-- Creates the toolchain's file in a directory unless it is there; says whether it was created. -/
def scaffold (host : Host σ) (t : Toolchain) (dir : Path) (name : String) :
    Act σ Failure Bool := fun s =>
  match t.scaffold with
  | none => (.ok false, s)
  | some file =>
      let path := dir.join file.file
      if host.exists? path s then (.ok false, s)
      else
        match host.writeText path (Toolchain.scaffoldContents file name) s with
        | (.ok (), s) => (.ok true, s)
        | (.error cause, s) => (.error (.scaffold path cause), s)

def prepare (host : Host σ) (r : Runner) (e : Exercise) : Act σ Failure Unit := fun s =>
  match host.makeDirs r.artifactDir s with
  | (.error cause, s) => (.error (.artifactDir r.artifactDir cause), s)
  | (.ok (), s) =>
      match scaffold host r.toolchain e.dir e.name s with
      | (.ok _, s) => (.ok (), s)
      | (.error f, s) => (.error f, s)

/-- The files that have to be in the exercise's directory and are not. -/
def missingFiles (host : Host σ) (e : Exercise) (s : σ) : List String :=
  e.validation.requiredFiles.filter fun f => !host.exists? (e.dir.join f) s

/-! ## Steps -/

/-- A step of a validation: the verdict after it, whether to go on, and the state after it. -/
abbrev Step (σ : Type) := Verdict → σ → (Verdict × Bool) × σ

/-- The second step follows only if the first one says so. -/
def Step.andThen (first second : Step σ) : Step σ := fun v s =>
  match first v s with
  | ((v, true), s) => second v s
  | ((v, false), s) => ((v, false), s)

/-- Runs a command line of the toolchain for an exercise. -/
def execute (host : Host σ) (r : Runner) (e : Exercise) (template : String) :
    Act σ Failure CommandRun := fun s =>
  let command := Toolchain.render template (r.context e)
  match host.execute command e.dir (r.timeoutFor e) s with
  | (.ok run, s) => (.ok run, s)
  | (.error cause, s) => (.error (.spawn command cause), s)

/-- Adds a phase to a verdict, with the failure that it means, if any. -/
def record (v : Verdict) (report : PhaseReport) (failure : String) (timeout : Duration) :
    Verdict × Bool :=
  let v := v.addPhase report
  -- A time limit is told of before any other failure.
  if report.timedOut then
    (v.fail (report.phase.label ++ " timed out after " ++ timeout.render), report.success)
  else if report.success then (v, true)
  else (v.fail failure, false)

/-- A phase that passes when its command does. -/
def commandStep (host : Host σ) (r : Runner) (e : Exercise) (phase : Phase) (template : String)
    (failure : String) : Step σ := fun v s =>
  match execute host r e template s with
  | (.error f, s) => ((v.fail f.message, false), s)
  | (.ok run, s) =>
      let report : PhaseReport := ⟨phase, run.success, run.combined, run.timedOut, run.elapsed⟩
      (record v report failure (r.timeoutFor e), s)

def exitLabel : Option Int → String
  | some n => toString n
  | none => "none (killed by signal)"

/-- Whether a run has the output that is expected. -/
def outputMatches (expected : String) (run : CommandRun) : Bool :=
  Text.trim run.combined == Text.trim expected

/-- The report on a run, by its output if one is expected, else by its exit code. -/
def runReport (expected : Option String) (run : CommandRun) : PhaseReport :=
  let success :=
    match expected with
    | some text => !run.timedOut && outputMatches text run
    | none => run.success
  ⟨.run, success, run.combined, run.timedOut, run.elapsed⟩

/-- What a failed run is told by: the output that was expected, or the exit code. -/
def runFailure (expected : Option String) (run : CommandRun) : String :=
  match expected with
  | some text =>
      if run.timedOut || outputMatches text run then
        "Program exited with code " ++ exitLabel run.exitCode
      else Mismatch.report text run.combined
  | none => "Program exited with code " ++ exitLabel run.exitCode

/-- The phase that runs the built program. -/
def runStep (host : Host σ) (r : Runner) (e : Exercise) (expected : Option String) : Step σ :=
  fun v s =>
    match execute host r e r.toolchain.run s with
    | (.error f, s) => ((v.fail f.message, false), s)
    | (.ok run, s) =>
        (record v (runReport expected run) (runFailure expected run) (r.timeoutFor e), s)

/-- The phase that runs the tests; the test file has to be there. -/
def testStep (host : Host σ) (r : Runner) (e : Exercise) : Step σ := fun v s =>
  if host.isFile (r.testPath e) s then
    commandStep host r e .test r.toolchain.test "Tests failed" v s
  else
    ((v.fail ("Test file not found: " ++ (r.testPath e).text ++
      " (test mode needs a companion test file)"), false), s)

/-- The phase that applies a rule to the source. -/
def staticStep (host : Host σ) (r : Runner) (e : Exercise) (id : String) : Step σ := fun v s =>
  match r.checks.get? id with
  | none => ((v.fail ("Unknown static check '" ++ id ++ "'"), false), s)
  | some check =>
      match check.check host e.sourcePath s with
      | .error cause => ((v.fail (Failure.check id cause).message, false), s)
      | .ok outcome =>
          let report : PhaseReport :=
            ⟨.static, outcome.passed, outcome.message, false, Duration.zero⟩
          if outcome.passed then ((v.addPhase report, true), s)
          else (((v.addPhase report).fail outcome.message, false), s)

/-- The phase that the mode of an exercise asks for. -/
def modeStep (host : Host σ) (r : Runner) (e : Exercise) : Step σ :=
  match e.validation.mode with
  | .build => fun v s => ((v, true), s)
  | .test => testStep host r e
  | .run expected => runStep host r e expected
  | .static id => staticStep host r e id

def prepareStep (host : Host σ) (r : Runner) (e : Exercise) : Step σ := fun v s =>
  match prepare host r e s with
  | (.ok (), s) => ((v, true), s)
  | (.error f, s) => ((v.fail f.message, false), s)

def requiredStep (host : Host σ) (e : Exercise) : Step σ := fun v s =>
  let missing := missingFiles host e s
  if missing.isEmpty then ((v, true), s)
  else ((v.fail ("Missing required file(s): " ++ Text.join ", " missing), false), s)

def buildStep (host : Host σ) (r : Runner) (e : Exercise) : Step σ :=
  commandStep host r e .build r.toolchain.build "Build failed"

/-- The phase that looks for markers; it leaves the output as it is. -/
def todoStep (host : Host σ) (e : Exercise) : Step σ := fun v s =>
  match host.readText e.sourcePath s with
  | .error cause => ((v.fail (Failure.unreadable e.sourcePath cause).message, false), s)
  | .ok content =>
      let todos := Marker.scan content
      let report : PhaseReport := ⟨.todoScan, todos.isEmpty, "", false, Duration.zero⟩
      let v := { v with phases := v.phases ++ [report], todos := todos }
      if todos.isEmpty then ((v, true), s) else ((v.fail (Marker.describe todos), false), s)

def steps (host : Host σ) (r : Runner) (e : Exercise) : Step σ :=
  (prepareStep host r e).andThen <| (requiredStep host e).andThen <|
    (buildStep host r e).andThen <| (modeStep host r e).andThen (todoStep host e)

def elapsed (v : Verdict) : Duration :=
  ⟨sumOf (v.phases.map (·.duration.nanos))⟩

/-- Judges the source of an exercise as it is now. -/
def validate (host : Host σ) (r : Runner) (e : Exercise) (s : σ) : Verdict × σ :=
  match steps host r e (Verdict.start e.name) s with
  | ((v, _), s) => (v.finish (elapsed v), s)

end Runner
end Trainer
