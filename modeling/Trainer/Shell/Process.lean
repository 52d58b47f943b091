import Trainer.FileTree
import Trainer.Shell.Command

/-!
# Processes

What a shell process works with: its own variables, functions and descriptors, and the machine
that it shares with other processes, with a tree of files, open descriptions and a clock.  Time
passes only while a process sleeps or waits.
-/

namespace Trainer
namespace Shell

/-! ## The machine -/

inductive Description where
  | none
  /-- Takes everything and gives nothing. -/
  | nothing
  /-- Gives zero bytes without end. -/
  | zeros
  /-- The output of the whole run, or its error output. -/
  | outside (second : Bool)
  /-- Output collected for another command. -/
  | sink (content : Bytes)
  /-- Input from another command; `endless` when there is no end after it. -/
  | source (content : Bytes) (endless : Bool)
  | file (place : List String) (offset : Nat) (append : Bool)
deriving Repr, Inhabited

/-- A piece of output and the time at which it was written. -/
structure Written where
  time : Nat
  second : Bool
  bytes : Bytes
deriving Repr

/-- What all processes of a run share. -/
structure Machine where
  tree : FileTree
  /-- Milliseconds since the start. -/
  clock : Nat
  /-- The time at which the run is ended from outside. -/
  deadline : Nat
  descriptions : Array Description
  /-- The output so far, last first. -/
  written : List Written
  nextPid : Nat
  /-- The commands carried out so far. -/
  steps : Nat
deriving Inhabited

/-! ## The process -/

/-- A command that runs beside the shell, with what it needs to start. -/
structure Pending where
  pid : Nat
  started : Nat
  command : Command
  name : Bytes
  args : List Bytes
  vars : List (Bytes × Bytes)
  exported : List Bytes
  functions : List (Bytes × Command)
  fds : List (Nat × Nat)
  dir : List String
  options : List Char
deriving Inhabited

/-- What a shell process has for itself. -/
structure Process where
  /-- The name used in error texts. -/
  name : Bytes
  /-- The function of the shell that is being carried out, for error texts; empty if there is none. -/
  doing : Bytes
  pid : Nat
  /-- The process number that the script sees. -/
  shownPid : Nat
  args : List Bytes
  vars : List (Bytes × Bytes)
  exported : List Bytes
  readOnly : List Bytes
  functions : List (Bytes × Command)
  /-- Descriptors by their numbers, as places in the machine's table. -/
  fds : List (Nat × Nat)
  dir : List String
  status : Nat
  /-- The letters of the options that are on. -/
  options : List Char
  traps : List (Bytes × Bytes)
  line : Nat
  /-- How deep function calls are nested. -/
  depth : Nat
  /-- How deep loops are nested. -/
  loops : Nat
  /-- The status of the last command whose output was taken for the command being expanded. -/
  outputStatus : Option Nat
  /-- The bits that new files do not get. -/
  mask : Nat
  /-- How many letters of the current argument `getopts` has taken. -/
  lettersTaken : Nat
  /-- Whether a failure is expected and ends nothing. -/
  tolerant : Bool
  /-- Whether the command carried out is the last one, so that it takes the shell's place. -/
  last : Bool
  lastJob : Option Nat
  pending : List Pending
  finished : List (Nat × Nat)
  /-- The commands in the background that a signal ended and of which nobody has heard yet. -/
  unheard : List Nat
  /-- The variables to put back when the function ends. -/
  saved : List (Bytes × Option Bytes)
deriving Inhabited

/-- A process and its machine. -/
structure Session where
  process : Process
  machine : Machine
deriving Inhabited

/-- Why a command did not end in the usual way. -/
inductive Stop where
  | exit (status : Nat)
  | signal (pid signal : Nat)
  | leave (status : Nat)
  | breakLoop (levels : Nat)
  | nextRound (levels : Nat)
  /-- The run was ended from outside. -/
  | halt
deriving DecidableEq, Repr

abbrev Sh := EStateM Stop Session

instance : EStateM.Backtrackable PUnit Session := EStateM.nonBacktrackable

namespace Sh

/-- The outcome of an action as a value. -/
def attempt {α : Type} (x : Sh α) : Sh (Except Stop α) := fun s =>
  match x s with
  | .ok a s => .ok (.ok a) s
  | .error e s => .ok (.error e) s

def process : Sh Process := do return (← get).process

def machine : Sh Machine := do return (← get).machine

def modifyProcess (f : Process → Process) : Sh Unit :=
  modify fun s => { s with process := f s.process }

def modifyMachine (f : Machine → Machine) : Sh Unit :=
  modify fun s => { s with machine := f s.machine }

/-- The tree of files as the process sees it. -/
def tree : Sh FileTree := do
  let s ← get
  return { s.machine.tree with workingDir := s.process.dir }

def setTree (t : FileTree) : Sh Unit :=
  modifyMachine fun m => { m with tree := t }

/-- Ends the run when its time is over. -/
def checkTime : Sh Unit := do
  let m ← machine
  if m.deadline < m.clock then throw .halt

def sleep (millis : Nat) : Sh Unit := do
  modifyMachine fun m => { m with clock := min (m.clock + millis) (m.deadline + 1) }
  checkTime

/-- Waits for something that never comes. -/
def hang {α : Type} : Sh α := do
  modifyMachine fun m => { m with clock := m.deadline + 1 }
  throw .halt

/-- The number of commands after which a run counts as endless. -/
def stepLimit : Nat := 200000

def countStep : Sh Unit := do
  modifyMachine fun m => { m with steps := m.steps + 1 }
  if stepLimit < (← machine).steps then hang

/-! ## Descriptors -/

/-- The place of a descriptor in the table. -/
def placeOf (fd : Nat) : Sh (Option Nat) := do
  return (← process).fds.lookup fd

def description (fd : Nat) : Sh Description := do
  match ← placeOf fd with
  | some i => return (← machine).descriptions.getD i .none
  | none => return .none

/-- Makes a new description and gives its place. -/
def newDescription (d : Description) : Sh Nat := do
  let i := (← machine).descriptions.size
  modifyMachine fun m => { m with descriptions := m.descriptions.push d }
  return i

def setDescription (i : Nat) (d : Description) : Sh Unit :=
  modifyMachine fun m => { m with descriptions := m.descriptions.setIfInBounds i d }

/-- Lets a descriptor lead to a place in the table. -/
def bindFd (fd place : Nat) : Sh Unit :=
  modifyProcess fun p => { p with fds := (fd, place) :: p.fds.filter (·.1 != fd) }

def closeFd (fd : Nat) : Sh Unit :=
  modifyProcess fun p => { p with fds := p.fds.filter (·.1 != fd) }

/-- The bytes of a text, each as a character. -/
def bytesOf (s : String) : Bytes :=
  s.toUTF8.toList.map fun b => Char.ofNat b.toNat

/-- Characters that stand for bytes as bytes. -/
def packBytes (cs : Bytes) : ByteArray :=
  cs.foldl (fun a c => a.push (UInt8.ofNat c.toNat)) (ByteArray.emptyWithCapacity cs.length)

/-- Bytes as characters. -/
def unpackBytes (b : ByteArray) : Bytes :=
  b.toList.map fun x => Char.ofNat x.toNat

/-- A name in a tree from its bytes. -/
def nameOf (cs : Bytes) : String :=
  match String.fromUTF8? (packBytes cs) with
  | some s => s
  | none => String.ofList cs

def pathOf (cs : Bytes) : Path := ⟨nameOf cs⟩

def contentsAt (place : List String) : Sh Bytes := do
  match (← machine).tree.get? place with
  | some (.file _ b) => return unpackBytes b
  | _ => return []

/-- Replaces the contents of the file at a place, if there is one. -/
def putContents (place : List String) (cs : Bytes) : Sh Unit := do
  let t := (← machine).tree
  match t.get? place with
  | some (.file i _) => setTree (t.put place (.file i (packBytes cs)))
  | _ => pure ()

/-- Writes to a descriptor; false if that is not possible. -/
def write (fd : Nat) (bytes : Bytes) : Sh Bool := do
  match ← placeOf fd with
  | none => return false
  | some i =>
      match (← machine).descriptions.getD i .none with
      | .outside second => do
          if !bytes.isEmpty then
            modifyMachine fun m => { m with written := ⟨m.clock, second, bytes⟩ :: m.written }
          return true
      | .sink content => do
          setDescription i (.sink (bytes.reverse ++ content))
          return true
      | .nothing => return true
      | .zeros => return true
      | .file place offset append => do
          let old ← contentsAt place
          let start := if append then old.length else offset
          let padded := old.take start ++ List.replicate (start - old.length) '\x00'
          putContents place (padded ++ bytes ++ old.drop (start + bytes.length))
          setDescription i (.file place (start + bytes.length) append)
          return true
      | _ => return false

/-- Takes everything that can be read; true when there is no end to it. -/
def readAll (fd : Nat) : Sh (Bytes × Bool) := do
  match ← placeOf fd with
  | none => return ([], false)
  | some i =>
      match (← machine).descriptions.getD i .none with
      | .source content endless => do
          setDescription i (.source [] endless)
          return (content, endless)
      | .zeros => return (List.replicate 65536 '\x00', true)
      | .file place offset append => do
          let all ← contentsAt place
          setDescription i (.file place all.length append)
          return (all.drop offset, false)
      | _ => return ([], false)

/-- Puts back what was read too much. -/
def unread (fd : Nat) (bytes : Bytes) : Sh Unit := do
  match ← placeOf fd with
  | none => pure ()
  | some i =>
      match (← machine).descriptions.getD i .none with
      | .source content endless => setDescription i (.source (bytes ++ content) endless)
      | .file place offset append => setDescription i (.file place (offset - bytes.length) append)
      | _ => pure ()

/-- Writes to the output; hides that it may be closed. -/
def put (bytes : Bytes) : Sh Unit := do
  let _ ← write 1 bytes

def putText (s : String) : Sh Unit := put (bytesOf s)

/-- Writes a line to the error output. -/
def complain (s : Bytes) : Sh Unit := do
  let _ ← write 2 (s ++ ['\n'])

def complainText (s : String) : Sh Unit := complain (bytesOf s)

/-- Writes a line to the error output as the shell does, with its name, the line number and what
it is doing. -/
def report (s : Bytes) : Sh Unit := do
  let p ← process
  complain (p.name ++ ": ".toList ++ (toString p.line).toList ++ ": ".toList ++
    (if p.doing.isEmpty then [] else p.doing ++ ": ".toList) ++ s)

/-- Reports a mistake after which a script does not go on. -/
def refuse {α : Type} (s : Bytes) : Sh α := do
  report s
  throw (.exit 2)

/-! ## Variables -/

def getVar (name : Bytes) : Sh (Option Bytes) := do
  return (← process).vars.lookup name

def setVar (name value : Bytes) : Sh Unit := do
  let p ← process
  if p.readOnly.contains name then refuse (name ++ ": is read only".toList)
  modifyProcess fun p => { p with
    vars := (name, value) :: p.vars.filter (·.1 != name)
    exported := if p.options.contains 'a' && !p.exported.contains name then name :: p.exported
      else p.exported }

def unsetVar (name : Bytes) : Sh Unit := do
  if (← process).readOnly.contains name then refuse (name ++ ": is read only".toList)
  modifyProcess fun p => { p with
    vars := p.vars.filter (·.1 != name)
    exported := p.exported.filter (· != name) }

/-- Runs an action under the name of a function of the shell. -/
def under (name : Bytes) (x : Sh Unit) : Sh Unit := do
  let before := (← process).doing
  modifyProcess fun p => { p with doing := name }
  let outcome ← attempt x
  modifyProcess fun p => { p with doing := before }
  match outcome with
  | .ok () => pure ()
  | .error e => throw e

def setStatus (n : Nat) : Sh Unit :=
  modifyProcess fun p => { p with status := n }

end Sh

/-- The system's wording without the number of the error. -/
def systemText : IoError → String
  | .notFound => "No such file or directory"
  | .alreadyExists => "File exists"
  | .notDirectory => "Not a directory"
  | .isDirectory => "Is a directory"
  | .nameTooLong => "File name too long"
  | e => e.message

end Shell
end Trainer
