import Trainer.Dashboard
import Trainer.Play

/-!
# The program on a real file system

The outer layer.  It reads the files below the working directory and below the root of the project
into memory, lets the library do the work there, writes back what has changed, and prints.  Commands
are carried out by the library's own shell.
-/

namespace Trainer
namespace Outside

/-! ## Reading the disk -/

/-- Adds an entry of a directory, and what is below it, to a tree; links are left out. -/
partial def readEntry (tree : FileTree) (entry : IO.FS.DirEntry) : IO FileTree := do
  let path : Path := ⟨entry.path.toString⟩
  try
    match (← entry.path.symlinkMetadata).type with
    | .dir =>
        let mut tree := (tree.makeDirs path).toOption.getD tree
        for inner in ← entry.path.readDir do
          tree ← readEntry tree inner
        return tree
    | .file =>
        let bytes ← IO.FS.readBinFile path.text
        return (tree.writeBytes path bytes).toOption.getD tree
    | _ => return tree
  catch _ => return tree

/-- Adds a directory and what is below it to a tree. -/
def readDirectory (tree : FileTree) (path : String) : IO FileTree := do
  let mut tree := (tree.makeDirs ⟨path⟩).toOption.getD tree
  for entry in ← (← IO.FS.realPath path).readDir do
    tree ← readEntry tree entry
  return tree

/-- The time now, as the time of a new file. -/
def now : IO Timestamp := do
  let (_, path) ← IO.FS.createTempFile
  let info ← path.metadata
  IO.FS.removeFile path
  return Timestamp.ofSeconds info.modified.sec info.modified.nsec.toNat

/-- The directories to be read: the working directory, and the root of the project. -/
def places (dir : String) (words : List String) : IO (List String) := do
  match Arguments.parse words with
  | .execute root _ _ =>
      try
        let path ← IO.FS.realPath ((Path.mk dir).join root).text
        return [dir, path.toString]
      catch _ => return [dir]
  | _ => return [dir]

/-- The disk as far as it concerns the program. -/
def readMachine (dir : String) (words : List String) : IO Sandbox := do
  let names := (Path.mk dir).components.filterMap fun c =>
    match c with
    | .name n => some n
    | _ => none
  let mut tree : FileTree := { FileTree.empty with workingDir := names }
  for place in ← places dir words do
    tree ← readDirectory tree place
  return Sandbox.ofTree tree (← now)

/-! ## Writing the disk -/

/-- Makes the disk agree with what has become of a tree. -/
def writeChanges (before after : FileTree) : IO Unit := do
  for (names, _) in WatchTable.missingIn after before do
    let path := (Path.ofNames names).text
    try IO.FS.removeDirAll path catch _ =>
      try IO.FS.removeFile path catch _ => pure ()
  for (names, entry) in after.entries.mergeSort fun a b => decide (a.1.length ≤ b.1.length) do
    let path := (Path.ofNames names).text
    match entry, before.get? names with
    | .directory, none => IO.FS.createDirAll path
    | .file _ contents, some (.file _ old) =>
        if contents.toList != old.toList then IO.FS.writeBinFile path contents
    | .file _ contents, _ => IO.FS.writeBinFile path contents
    | .directory, _ => pure ()

def print (printed : Printed) : IO Unit := do
  for (channel, text) in printed do
    match channel with
    | .out => IO.print text
    | .error => IO.eprint text

/-! ## The lock -/

/-- The lock file of a request that needs the lock. -/
def lockPath? (machine : Sandbox) (words : List String) : Option (Path × Sandbox) :=
  let find (root : String) :=
    match Program.prepare Sandbox.host root machine with
    | (.ok config, machine) => some (config.lockPath, machine)
    | (.error _, _) => none
  match Arguments.parse words with
  | .execute root _ .watch => find root
  | .execute root _ (.run _) => find root
  | _ => none

/-- Takes the lock on the disk, or notes that somebody else has it. -/
def takeLock (machine : Sandbox) (words : List String) :
    IO (Option IO.FS.Handle × Sandbox) := do
  match lockPath? machine words with
  | none => return (none, machine)
  | some (path, prepared) =>
      try
        writeChanges machine.tree prepared.tree
        let handle ← IO.FS.Handle.mk path.text .append
        if ← handle.tryLock then return (some handle, prepared)
        else return (none, prepared.withForeignLock path)
      catch _ => return (none, machine)

/-! ## Sessions -/

/-- Tells the session about the changes on the disk. -/
def catchUp (play : Play) (disk : FileTree) : Play :=
  let known := play.machine.tree
  let changed := disk.entries.filter fun x =>
    match x.2, known.get? x.1 with
    | .file _ new, some (.file _ old) => new.toList != old.toList
    | _, found => found.isNone
  if changed.isEmpty then play
  else changed.foldl (fun play x => play.change disk (some x.1)) play

/-- Plays a session: every line that is read is what the learner types at once. -/
partial def converse (dir : String) (words : List String) (play : Play) : IO Play := do
  if play.session.quitting then return play
  for row in Dashboard.draw play.session 100 30 do
    IO.println (CellRow.text row)
  let line ← (← IO.getStdin).getLine
  if line.isEmpty then return play
  let disk ← readMachine dir words
  let play := catchUp play disk.tree
  let typed := Text.trimEnd line
  let next := Play.type (if typed.isEmpty then "\r" else typed) play
  writeChanges disk.tree next.machine.tree
  converse dir words next

end Outside
end Trainer

open Trainer in
def main (words : List String) : IO UInt32 := do
  let isTerminal ← (← IO.getStdout).isTty
  let paint := Paint.ofEnvironment (← IO.getEnv "CLICOLOR_FORCE") (← IO.getEnv "NO_COLOR")
    (← IO.getEnv "CLICOLOR") isTerminal
  let dir := (← IO.currentDir).toString
  let (lock, machine) ← Outside.takeLock (← Outside.readMachine dir words) words
  let ((printed, ending), after) := Program.start Sandbox.host paint words machine
  Outside.print printed
  Outside.writeChanges machine.tree after.tree
  let code ← match ending with
    | .exit code => pure code
    | .watch workspace _ => do
        let first := (Play.start workspace after).rest
        Outside.writeChanges after.tree first.machine.tree
        let last ← Outside.converse dir words first
        Outside.print (Program.farewell paint last.session.catalog.stats)
        pure 0
  if let some handle := lock then handle.unlock
  return code.toUInt32
