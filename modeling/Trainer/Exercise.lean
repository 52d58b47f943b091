import Trainer.Number
import Trainer.Duration
import Trainer.Timestamp
import Trainer.Path

/-!
# Exercises

An exercise is a source file the learner changes, together with what its author says about it: how
it is judged (`Mode`, `Validation`) and what helps (`Hints`).

* the hint shown grows with the attempts: level 1 up to two attempts, 2 up to five, 3 from six on;
* a hint that is missing or blank gives way to the next lower one.
-/

namespace Trainer

/-! ## How an exercise is judged -/

/-- The way an exercise's source is judged after it has been built. -/
inductive Mode where
  /-- That it builds is enough. -/
  | build
  /-- By the test file that goes with it. -/
  | test
  /-- By running it, and by its output if one is expected. -/
  | run (expectedOutput : Option String)
  /-- By a rule about its text. -/
  | static (checkId : String)
deriving DecidableEq, Repr, Inhabited

inductive ModeError where
  | missingCheckId
  | unknown (word : String)
deriving DecidableEq, Repr

def ModeError.message : ModeError → String
  | .missingCheckId => "mode 'static' requires a static_check_id"
  | .unknown word => "unknown validation mode '" ++ word ++ "'"

namespace Mode

/-- Reads a mode in any letter case; each mode takes the fields it needs and no others. -/
def parse (word : String) (expectedOutput checkId : Option String) : Except ModeError Mode :=
  let word := Text.lower (Text.trim word)
  if word = "build" then .ok .build
  else if word = "test" then .ok .test
  else if word = "run" then .ok (.run expectedOutput)
  else if word = "static" then
    let id := Text.trim (checkId.getD "")
    if id = "" then .error .missingCheckId else .ok (.static id)
  else .error (.unknown word)

def label : Mode → String
  | .build => "build"
  | .test => "test"
  | .run _ => "run"
  | .static _ => "static"

end Mode

structure Validation where
  mode : Mode
  /-- A time limit of its own. -/
  timeout : Option Duration
  /-- Files that have to be in the exercise's directory. -/
  requiredFiles : List String
deriving DecidableEq, Repr, Inhabited

/-! ## Hints -/

/-- Hints of growing detail. -/
structure Hints where
  level1 : String
  level2 : Option String
  level3 : Option String
deriving DecidableEq, Repr, Inhabited

namespace Hints

/-- The level that so many attempts unlock. -/
def levelFor (attempts : Nat) : Nat :=
  if attempts ≤ 2 then 1 else if attempts ≤ 5 then 2 else 3

/-- A hint that has something to say. -/
def present (hint : Option String) : Option String :=
  hint.filter fun h => !Text.isBlank h

/-- The hint of a level, or the closest one below it that has something to say. -/
def atLevel (h : Hints) (level : Nat) : String :=
  if level ≤ 1 then h.level1
  else if level = 2 then (present h.level2).getD h.level1
  else ((present h.level3).or (present h.level2)).getD h.level1

/-- The hint that so many attempts unlock. -/
def forAttempts (h : Hints) (attempts : Nat) : String :=
  h.atLevel (levelFor attempts)

end Hints

/-! ## The exercise -/

/-- An exercise of the catalog with its state in this session. -/
structure Exercise where
  name : String
  category : String
  difficulty : Nat
  estimatedTime : Option String
  toolchainVersion : Option String
  sourcePath : Path
  solutionPath : Path
  metadataPath : Path
  title : String
  summary : String
  objectives : List String
  hints : Hints
  validation : Validation
  completed : Bool
  attempts : Nat
  lastAttempt : Option Timestamp
deriving DecidableEq, Repr, Inhabited

namespace Exercise

/-- The largest number of attempts that is counted. -/
def attemptLimit : Nat := twoTo 32 - 1

/-- The directory of the source file, in which every command runs. -/
def dir (e : Exercise) : Path :=
  e.sourcePath.parent?.getD ⟨"."⟩

def stem (e : Exercise) : String :=
  e.sourcePath.stem?.getD e.name

def hint (e : Exercise) : String :=
  e.hints.forAttempts e.attempts

def hintLevel (e : Exercise) : Nat :=
  Hints.levelFor e.attempts

def recordAttempt (e : Exercise) (now : Timestamp) : Exercise :=
  { e with attempts := min (e.attempts + 1) attemptLimit, lastAttempt := some now }

end Exercise
end Trainer
