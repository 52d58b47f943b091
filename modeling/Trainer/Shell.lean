import Trainer.Text.Utf8
import Trainer.Shell.Evaluation

/-!
# The shell

`Shell.run` carries out a command line in a tree of files, as a process group of its own with a
time limit: what runs in the background ends with the command, and what was written before the
time was over is kept.
-/

namespace Trainer
namespace Shell

open Sh

/-- How the run of a command line ended. -/
structure Outcome where
  /-- Missing when a signal ended the shell. -/
  exitCode : Option Nat
  timedOut : Bool
  stdout : String
  stderr : String
  /-- Milliseconds from start to end. -/
  elapsed : Nat
  tree : FileTree
deriving Inhabited

/-- More steps than a script takes that is not endless. -/
def patience : Nat := 2000000

def firstProcess (dir : List String) : Process where
  name := "sh".toList
  doing := []
  pid := 4242
  shownPid := 4242
  args := []
  vars := [
    ("PATH".toList, "/usr/local/sbin:/usr/local/bin:/usr/sbin:/usr/bin:/sbin:/bin".toList),
    ("HOME".toList, "/root".toList), ("PWD".toList, dirName dir), ("OPTIND".toList, ['1']),
    ("PS1".toList, ['$', ' ']), ("PS2".toList, ['>', ' ']), ("PS4".toList, ['+', ' '])]
  exported := ["PATH".toList, "HOME".toList, "PWD".toList]
  readOnly := []
  functions := []
  fds := [(0, 0), (1, 1), (2, 2)]
  dir := dir
  status := 0
  options := []
  traps := []
  line := 1
  depth := 0
  loops := 0
  outputStatus := none
  mask := 18
  lettersTaken := 0
  tolerant := false
  last := false
  lastJob := none
  pending := []
  finished := []
  unheard := []
  saved := []

def firstMachine (tree : FileTree) (limit : Nat) : Machine where
  tree := tree
  clock := 0
  deadline := limit
  descriptions := #[.nothing, .outside false, .outside true]
  written := []
  nextPid := 4243
  steps := 0

/-- Lets the commands in the background run until the shell has ended. -/
def endJobs : List Pending → Sh Unit
  | [] => pure ()
  | j :: rest => do
      let _ ← attempt (runJob patience j (← machine).clock)
      endJobs rest

/-- What was written to one of the outputs, in the order of time. -/
def outputText (second : Bool) (written : List Written) : String :=
  let chosen := (written.filter fun w => w.second == second).reverse
  let ordered := chosen.mergeSort fun a b => decide (a.time ≤ b.time)
  String.ofList (Utf8.decode ((ordered.flatMap (·.bytes)).map Char.toNat))

/-- Carries out a command line in a directory, for at most so many milliseconds. -/
def run (tree : FileTree) (dir : List String) (command : String) (limit : Nat) : Outcome :=
  let start : Session := ⟨firstProcess dir, firstMachine tree limit⟩
  let (stopped, s) :=
    match shellBody patience true (bytesOf command) start with
    | .ok () s => (Except.ok (), s)
    | .error e s => (Except.error e, s)
  let (exitCode, timedOut) :=
    match stopped with
    | .ok () => (some (s.process.status % 256), false)
    | .error (.exit n) => (some (n % 256), false)
    | .error (.leave n) => (some (n % 256), false)
    | .error (.breakLoop _) => (some 0, false)
    | .error (.nextRound _) => (some 0, false)
    | .error (.signal _ _) => (none, false)
    | .error .halt => (none, true)
  let final :=
    match endJobs s.process.pending s with
    | .ok () s => s
    | .error _ s => s
  let elapsed := if timedOut then limit else s.machine.clock
  { exitCode, timedOut, elapsed
    stdout := outputText false final.machine.written
    stderr := outputText true final.machine.written
    tree := { final.machine.tree with workingDir := tree.workingDir } }

/-- Whether a program can be found under a name or a path. -/
def findsProgram (tree : FileTree) (name : String) : Bool :=
  let base :=
    if Text.startsWith "/bin/" name then some (String.ofList (name.toList.drop 5))
    else if Text.startsWith "/usr/bin/" name then some (String.ofList (name.toList.drop 9))
    else if name.toList.contains '/' then none
    else some name
  match base with
  | some n => Utility.isInstalled n
  | none =>
      match tree.lookup ⟨name⟩ with
      | .ok (_, .file i _) => tree.executable.contains i
      | _ => false

end Shell
end Trainer
