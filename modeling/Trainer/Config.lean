import Trainer.Toolchain
import Trainer.Host
import Trainer.Exercise.Metadata

/-!
# Project configuration

The file `kata.toml` at the root of a project, every part of which may be missing, and the places
that follow from it.
-/

namespace Trainer

structure CheckEntry where
  id : String
  pattern : String
  /-- Whether the pattern must not occur. -/
  forbid : Bool
  /-- What to tell the learner on a failure. -/
  message : Option String
deriving DecidableEq, Repr, Inhabited

structure Config where
  root : Path
  exercisesDir : Path
  solutionsDir : Path
  stateDir : Path
  defaultTimeout : Duration
  toolchain : Toolchain
  staticChecks : List CheckEntry
deriving DecidableEq, Repr, Inhabited

namespace Config

/-- The configuration of a project without a configuration file. -/
def standard (root : Path) : Config where
  root := root
  exercisesDir := ⟨"exercises"⟩
  solutionsDir := ⟨"solutions"⟩
  stateDir := ⟨".kata"⟩
  defaultTimeout := Duration.ofSeconds 30
  toolchain := Toolchain.standard
  staticChecks := []

/-! ## Places -/

def exercisesPath (c : Config) : Path := c.root.join c.exercisesDir.text

def solutionsPath (c : Config) : Path := c.root.join c.solutionsDir.text

def statePath (c : Config) : Path := c.root.join c.stateDir.text

def progressPath (c : Config) : Path := c.statePath.join "progress.toml"

def artifactDir (c : Config) : Path := c.statePath.join "bin"

def logPath (c : Config) : Path := c.statePath.join "kata.log"

def lockPath (c : Config) : Path := c.statePath.join "session.lock"

/-! ## Reading -/

def decodeCheck : Toml.Decoder CheckEntry := fun v => do
  let fs ← Toml.asFields v
  let id ← fs.required 0 "id" Toml.asString
  let pattern ← fs.required 1 "pattern" Toml.asString
  let forbid ← fs.withDefault 2 "forbid" false Toml.asBool
  let message ← fs.optional 3 ["message"] Toml.asString
  return { id, pattern, forbid, message }

/-- Reads a time limit that has to be a valid duration. -/
def decodeTimeout : Toml.Decoder Duration := fun v =>
  match WrittenTimeout.decode v with
  | some written => written.duration.toOption
  | none => none

def decode (root : Path) (fs : Toml.Fields) : Option Config := do
  let usual := standard root
  let exercisesDir ← fs.withDefault 0 "exercises_dir" usual.exercisesDir.text Toml.asString
  let solutionsDir ← fs.withDefault 1 "solutions_dir" usual.solutionsDir.text Toml.asString
  let stateDir ← fs.withDefault 2 "state_dir" usual.stateDir.text Toml.asString
  let defaultTimeout ← fs.withDefault 3 "default_timeout" usual.defaultTimeout decodeTimeout
  let toolchain ← fs.withDefault 4 "toolchain" usual.toolchain Toolchain.decode
  let staticChecks ← fs.withDefault 5 "static_checks" [] (Toml.asList decodeCheck)
  return {
    root, exercisesDir := ⟨exercisesDir⟩, solutionsDir := ⟨solutionsDir⟩, stateDir := ⟨stateDir⟩,
    defaultTimeout, toolchain, staticChecks }

inductive Failure where
  | unreadable (path : Path) (cause : IoError)
  | malformed (path : Path)
  | emptyExtension
  | emptyBuild
  | zeroTimeout
deriving DecidableEq, Repr

/-- The wording of a failure, without the details of a document's malformation. -/
def Failure.message : Failure → String
  | .unreadable path cause => "Failed to read " ++ path.text ++ ": " ++ cause.message
  | .malformed path => "Failed to parse " ++ path.text
  | .emptyExtension => "toolchain.source_extension cannot be empty"
  | .emptyBuild => "toolchain.build command cannot be empty"
  | .zeroTimeout => "default_timeout must be greater than zero"

/-- Refuses a configuration with which nothing can be built. -/
def validate (c : Config) : Except Failure Config :=
  if Text.isBlank c.toolchain.sourceExtension then .error .emptyExtension
  else if Text.isBlank c.toolchain.build then .error .emptyBuild
  else if c.defaultTimeout.isZero then .error .zeroTimeout
  else .ok c

def file (root : Path) : Path := root.join "kata.toml"

/-- Reads the configuration of a project; a missing file leaves everything as usual. -/
def load {σ : Type} (host : Host σ) (root : Path) (s : σ) : Except Failure Config :=
  if host.exists? (file root) s then
    match host.readText (file root) s with
    | .error cause => .error (.unreadable (file root) cause)
    | .ok content =>
        match Toml.decode (decode root) content with
        | none => .error (.malformed (file root))
        | some c => c.validate
  else (standard root).validate

/-! ## The state directory -/

structure DirFailure where
  path : Path
  cause : IoError
deriving DecidableEq, Repr

def DirFailure.message (f : DirFailure) : String :=
  "Failed to create " ++ f.path.text ++ ": " ++ f.cause.message

/-- Makes the state directory and the directory of built programs. -/
def ensureStateDir {σ : Type} (host : Host σ) (c : Config) : Act σ DirFailure Path := do
  (host.makeDirs c.statePath).orElseFail (DirFailure.mk c.statePath)
  (host.makeDirs c.artifactDir).orElseFail (DirFailure.mk c.artifactDir)
  return c.statePath

end Config
end Trainer
