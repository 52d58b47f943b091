import Trainer.Host
import Trainer.Shell

/-!
# A host in memory

`Sandbox.host` carries out what a `Host` offers on a tree of files held in memory: commands are run
by `Trainer.Shell`, locks are kept on the identity of a file, and the clock stands still.
-/

namespace Trainer

structure Sandbox where
  tree : FileTree
  /-- The locks that are held: the lock and the identity of its file. -/
  locks : List (Nat × Nat)
  nextLock : Nat
  clock : Timestamp

namespace Sandbox

/-- A machine with a tree and a time, on which no lock is held. -/
def ofTree (tree : FileTree) (clock : Timestamp) : Sandbox :=
  ⟨tree, [], 0, clock⟩

/-- An answer of the tree that may change it. -/
def change (f : FileTree → Except IoError FileTree) : Act Sandbox IoError Unit := fun s =>
  match f s.tree with
  | .ok tree => (.ok (), { s with tree })
  | .error e => (.error e, s)

/-- Makes a directory and those it lies in, as far as that goes. -/
def makeDirs (p : Path) : Act Sandbox IoError Unit := fun s =>
  match s.tree.dig p with
  | (answer, tree) => (answer, { s with tree })

def kind? (p : Path) (s : Sandbox) : Option FileKind :=
  match s.tree.lookup p with
  | .ok (_, .directory) => some .directory
  | .ok (_, .file _ _) => some .file
  | .error _ => none

def filesBelow (p : Path) (s : Sandbox) : List Path :=
  match s.tree.lookup p with
  | .ok (place, _) => (s.tree.filesBelow place).map Path.ofNames
  | .error _ => []

/-- Takes the lock on a file unless somebody has it. -/
def lock (p : Path) : Act Sandbox LockRefusal Nat := fun s =>
  match s.tree.openFile p with
  | .error e => (.error (.unopened e), s)
  | .ok (identity, tree) =>
      if s.locks.any fun l => l.2 == identity then (.error .held, { s with tree })
      else
        (.ok s.nextLock,
          { s with
            tree
            locks := (s.nextLock, identity) :: s.locks
            nextLock := s.nextLock + 1 })

/-- The machine on which somebody else holds the lock on a file. -/
def withForeignLock (p : Path) (s : Sandbox) : Sandbox :=
  (lock p s).2

def unlock (handle : Nat) (s : Sandbox) : Sandbox :=
  { s with locks := s.locks.filter fun l => l.1 != handle }

def execute (command : String) (dir : Path) (limit : Duration) :
    Act Sandbox IoError CommandRun := fun s =>
  if command.toList.contains '\x00' then (.error .nulInCommand, s)
  else
    match s.tree.lookup dir with
    | .error .nulInPath => (.error .nulInCommand, s)
    | .error e => (.error e, s)
    | .ok (_, .file _ _) => (.error .notDirectory, s)
    | .ok (place, .directory) =>
        let o := Shell.run s.tree place command limit.millis
        (.ok ⟨o.exitCode.map Int.ofNat, o.timedOut, o.stdout, o.stderr, Duration.ofMillis o.elapsed⟩,
          { s with tree := o.tree })

def host : Host Sandbox where
  now := clock
  kind? := kind?
  canonical := fun p s => s.tree.canonical p
  readText := fun p s => s.tree.readText p
  filesBelow := filesBelow
  findsProgram := fun name s => Shell.findsProgram s.tree name
  makeDirs := makeDirs
  writeText := fun p text => change fun t => t.writeText p text
  rename := fun source target => change fun t => t.rename source target
  openLog := fun p => change fun t => (t.openFile p).map (·.2)
  lock := lock
  unlock := unlock
  execute := execute

end Sandbox
end Trainer
