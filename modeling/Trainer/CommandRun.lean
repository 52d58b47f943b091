import Trainer.Duration

/-!
# Runs of commands

How a command ended: its exit code or the time limit it ran into, and what it wrote.
-/

namespace Trainer

structure CommandRun where
  /-- Missing when a signal ended the command. -/
  exitCode : Option Int
  timedOut : Bool
  stdout : String
  stderr : String
  elapsed : Duration
deriving DecidableEq, Repr, Inhabited

namespace CommandRun

/-- A success is an exit code of zero within the time limit. -/
def success (r : CommandRun) : Bool :=
  !r.timedOut && r.exitCode == some 0

/-- Both outputs, the second one on a line of its own. -/
def combined (r : CommandRun) : String :=
  if r.stderr = "" then r.stdout
  else if r.stdout = "" then r.stderr
  else if Text.endsWith "\n" r.stdout then r.stdout ++ r.stderr
  else r.stdout ++ "\n" ++ r.stderr

def status (timedOut success : Bool) : String :=
  if timedOut then "TIMED OUT" else if success then "PASSED" else "FAILED"

/-- An exit code that may be missing. -/
def codeText : Option Int → String
  | some n => "Some(" ++ toString n ++ ")"
  | none => "None"

/-- A run in one line, given the verdict on it. -/
def summaryAs (success : Bool) (command : String) (r : CommandRun) : String :=
  status r.timedOut success ++ " - " ++ command ++ " (" ++ toString r.elapsed.millis ++
    "ms, exit code: " ++ codeText r.exitCode ++ ")"

def summary (command : String) (r : CommandRun) : String :=
  r.summaryAs r.success command

end CommandRun
end Trainer
