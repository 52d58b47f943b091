import Trainer.Host

/-!
# The session lock

Two sessions that write the same progress would overwrite each other's completions, so each takes
an exclusive lock first and the second one is refused.
-/

namespace Trainer

structure SessionLock where
  path : Path
  handle : Nat
deriving DecidableEq, Repr

namespace SessionLock

/-- Why a session may not start. -/
inductive Failure where
  | unopened (path : Path) (cause : IoError)
  | held (path : Path)
deriving DecidableEq, Repr

def Failure.message : Failure → String
  | .unopened path cause => "Failed to open lock file: " ++ path.text ++ ": " ++ cause.message
  | .held path =>
      "Another kata session is already running (lock held on " ++ path.text ++ ")"

def Failure.ofRefusal (path : Path) : LockRefusal → Failure
  | .unopened cause => .unopened path cause
  | .held => .held path

def acquire {σ : Type} (host : Host σ) (path : Path) : Act σ Failure SessionLock := do
  let handle ← (host.lock path).orElseFail (Failure.ofRefusal path)
  return ⟨path, handle⟩

def release {σ : Type} (host : Host σ) (lock : SessionLock) (s : σ) : σ :=
  host.unlock lock.handle s

end SessionLock
end Trainer
