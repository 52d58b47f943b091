import Trainer.CommandRun
import Trainer.Timestamp
import Trainer.Path
import Trainer.IoError

/-!
# The host

Everything the trainer asks of the machine it runs on, as one record of operations on a state `σ`
of that machine.  Nothing else in the library touches files, clocks, locks or commands, so a law
about "every behaviour of the file system and of the commands" is a law about every `Host`.
-/

namespace Trainer

/-! ## Actions -/

/-- A computation that changes a state and may fail; a failure keeps the changes made so far. -/
def Act (σ ε α : Type) := σ → Except ε α × σ

namespace Act

variable {σ ε ε' α β : Type}

/-- Gives a value and changes nothing. -/
protected def pure (a : α) : Act σ ε α := fun s => (.ok a, s)

/-- One action after the other; a failure of the first is the failure of both. -/
protected def bind (x : Act σ ε α) (f : α → Act σ ε β) : Act σ ε β := fun s =>
  match x s with
  | (.ok a, s) => f a s
  | (.error e, s) => (.error e, s)

instance : Monad (Act σ ε) where
  pure := Act.pure
  bind := Act.bind

/-- Fails and changes nothing. -/
def fail (e : ε) : Act σ ε α := fun s => (.error e, s)

def read (f : σ → α) : Act σ ε α := fun s => (.ok (f s), s)

/-- An answer read from the state, which may be a failure. -/
def ask (f : σ → Except ε α) : Act σ ε α := fun s => (f s, s)

/-- Rewords a failure. -/
def orElseFail (x : Act σ ε α) (f : ε → ε') : Act σ ε' α := fun s =>
  match x s with
  | (.ok a, s) => (.ok a, s)
  | (.error e, s) => (.error (f e), s)

/-- The action's answer as a value; the action as a whole cannot fail. -/
def attempt (x : Act σ ε α) : Act σ ε' (Except ε α) := fun s =>
  match x s with
  | (r, s) => (.ok r, s)

theorem bind_apply (x : Act σ ε α) (f : α → Act σ ε β) (s : σ) :
    (x >>= f) s = match x s with
      | (.ok a, s) => f a s
      | (.error e, s) => (.error e, s) := rfl

end Act

/-! ## What a host offers -/

inductive FileKind where
  | file
  | directory
deriving DecidableEq, Repr

inductive LockRefusal where
  | unopened (cause : IoError)
  | held
deriving DecidableEq, Repr

/-- The operations of a machine whose state is a `σ`. -/
structure Host (σ : Type) where
  /-- The time of the clock. -/
  now : σ → Timestamp
  /-- What stands at a path, if anything. -/
  kind? : Path → σ → Option FileKind
  /-- The canonical form of an existing path. -/
  canonical : Path → σ → Except IoError Path
  /-- The contents of a file as text. -/
  readText : Path → σ → Except IoError String
  /--
  The files below a canonical directory at any depth, in any order.  The search cannot fail, so a
  directory that cannot be read has no counterpart among the failures of a load.
  -/
  filesBelow : Path → σ → List Path
  /-- Whether a program can be found. -/
  findsProgram : String → σ → Bool
  /-- Makes a directory and those it lies in. -/
  makeDirs : Path → Act σ IoError Unit
  /-- Writes a file, which is made if need be. -/
  writeText : Path → String → Act σ IoError Unit
  /-- Puts a file in the place of another. -/
  rename : Path → Path → Act σ IoError Unit
  /-- Opens a file to add to it; it is made if need be. -/
  openLog : Path → Act σ IoError Unit
  /-- Takes the exclusive lock on a file, which is made if need be; gives the lock. -/
  lock : Path → Act σ LockRefusal Nat
  /-- Gives a lock back. -/
  unlock : Nat → σ → σ
  /-- Runs a command line in a directory with a time limit. -/
  execute : String → Path → Duration → Act σ IoError CommandRun

namespace Host

variable {σ : Type} (host : Host σ)

def exists? (p : Path) (s : σ) : Bool :=
  (host.kind? p s).isSome

def isFile (p : Path) (s : σ) : Bool :=
  host.kind? p s == some .file

def isDirectory (p : Path) (s : σ) : Bool :=
  host.kind? p s == some .directory

end Host
end Trainer
