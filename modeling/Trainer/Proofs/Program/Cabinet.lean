import Mathlib
import Trainer.Proofs.Program.Process

/-!
# A host in memory with a lock

A cabinet is a shelf that one process at a time can lock, on a machine where every command
succeeds.  It is a host that keeps what a file system promises, because its shelf does
(`Cabinet.keeps`), and what is promised about locks (`Cabinet.flock`).
-/

namespace Trainer

/-- The state of a host in memory with a lock. -/
structure Cabinet where
  shelf : Shelf
  /-- Whether somebody has the lock. -/
  locked : Bool
deriving DecidableEq

namespace Cabinet

/-- An action on the shelf of a cabinet. -/
def onShelf {ε α : Type} (act : Act Shelf ε α) : Act Cabinet ε α := fun s =>
  ((act s.shelf).1, { s with shelf := (act s.shelf).2 })

def lock : Act Cabinet LockRefusal Nat := fun s =>
  if s.locked then (.error .held, s) else (.ok 0, { s with locked := true })

/-- A command that has nothing to say. -/
def silentRun : CommandRun := ⟨some 0, false, "", "", Duration.zero⟩

/-- The machine with a cabinet for its files and a clock that stands still. -/
def host (now : Timestamp) : Host Cabinet where
  now := fun _ => now
  kind? := fun path s => (Shelf.host now).kind? path s.shelf
  canonical := fun path s => (Shelf.host now).canonical path s.shelf
  readText := fun path s => (Shelf.host now).readText path s.shelf
  filesBelow := fun root s => (Shelf.host now).filesBelow root s.shelf
  findsProgram := fun _ _ => true
  makeDirs := fun path => onShelf ((Shelf.host now).makeDirs path)
  writeText := fun path text => onShelf ((Shelf.host now).writeText path text)
  rename := fun source target => onShelf ((Shelf.host now).rename source target)
  openLog := fun path => onShelf ((Shelf.host now).openLog path)
  lock := fun _ => lock
  unlock := fun _ s => { s with locked := false }
  execute := fun _ _ _ s => (.ok silentRun, s)

variable {now : Timestamp} {file : Path} {s s' : Cabinet}

theorem look_eq (now : Timestamp) (path : Path) (s : Cabinet) :
    (host now).look path s = (Shelf.host now).look path s.shelf := rfl

theorem onShelf_eq {ε α : Type} {act : Act Shelf ε α} {r : Except ε α}
    (h : onShelf act s = (r, s')) : act s.shelf = (r, s'.shelf) ∧ s'.locked = s.locked := by
  cases h
  exact ⟨rfl, rfl⟩

/-- A cabinet keeps its promises about every file that is not its own side file. -/
theorem keeps (now : Timestamp) (hside : Progress.sidePath file ≠ file) :
    (host now).Keeps file where
  look_makeDirs hdir h := (Shelf.keeps now hside).look_makeDirs hdir (onShelf_eq h).1
  look_write h := (Shelf.keeps now hside).look_write (onShelf_eq h).1
  look_written h := (Shelf.keeps now hside).look_written (onShelf_eq h).1
  look_renamed h := (Shelf.keeps now hside).look_renamed (onShelf_eq h).1
  look_unrenamed h := (Shelf.keeps now hside).look_unrenamed (onShelf_eq h).1

/-- A lock is taken if nobody holds it, and refused otherwise. -/
theorem lock_cases {r : Except LockRefusal Nat} (h : lock s = (r, s')) :
    (r = .ok 0 ∧ s.locked = false ∧ s' = { s with locked := true }) ∨
      (r = .error .held ∧ s' = s) := by
  unfold lock at h
  split at h
  · cases h
    exact .inr ⟨rfl, rfl⟩
  · rename_i hfree
    cases h
    exact .inl ⟨rfl, by simpa using hfree, rfl⟩

/-- A cabinet keeps the promises about locks. -/
def flock (now : Timestamp) (lockFile file : Path) : (host now).Flock lockFile file where
  holder := fun s => if s.locked then some 0 else none
  granted := by
    intro handle s s' h
    rcases lock_cases h with ⟨hr, hfree, rfl⟩ | ⟨hno, -⟩
    · cases hr
      simp [hfree]
    · cases hno
  refused := by
    intro cause s s' h
    rcases lock_cases h with ⟨hno, -⟩ | ⟨-, rfl⟩
    · cases hno
    · rfl
  freed := fun _ => rfl
  look_lock := by
    intro path r s s' _ h
    rcases lock_cases h with ⟨-, -, rfl⟩ | ⟨-, rfl⟩
    · rfl
    · rfl
  look_unlock := fun _ => rfl
  holder_makeDirs := by
    intro dir r s s' _ h
    simp only [(onShelf_eq h).2]
  holder_write := by
    intro text r s s' h
    simp only [(onShelf_eq h).2]
  holder_rename := by
    intro r s s' h
    simp only [(onShelf_eq h).2]

end Cabinet
end Trainer
