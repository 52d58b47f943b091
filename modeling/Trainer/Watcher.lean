import Trainer.FileEvent
import Trainer.Host

/-!
# Watchers

A watcher keeps the canonical paths that are watched, in increasing order, beside what the system
watches for it.  What the system does is the business of a `WatchBackend`; a watcher changes its
record only after the system has agreed.  Closing a watcher takes the system away from it and leaves
the record as it is.
-/

namespace Trainer

/-- What a watcher asks of the system, whose state is a `σ`. -/
structure WatchBackend (σ : Type) where
  /-- The canonical form of an existing path. -/
  canonical : Path → σ → Except IoError Path
  /-- Starts watching a tree. -/
  watch : Path → Act σ String Unit
  /-- Stops watching a tree. -/
  unwatch : Path → Act σ String Unit

structure Watcher where
  watched : List Path
  /-- Whether the system still watches for it. -/
  attached : Bool
  closed : Bool
deriving DecidableEq, Repr, Inhabited

namespace Watcher

/-- Why a request was refused. -/
inductive Failure where
  | unresolved (path : Path) (cause : IoError)
  | backend (wording : String)
  | closed
deriving DecidableEq, Repr

def Failure.message : Failure → String
  | .unresolved path cause => "cannot watch " ++ path.text ++ ": " ++ cause.message
  | .backend wording => "watch backend error: " ++ wording
  | .closed => "watcher is closed"

def fresh : Watcher := ⟨[], true, false⟩

def watches (w : Watcher) (p : Path) : Bool :=
  w.watched.any fun q => q.same p

/-- Puts a path at its place in the order of paths, unless it is there. -/
def insertPath (p : Path) : List Path → List Path
  | [] => [p]
  | q :: rest =>
      if q.same p then q :: rest
      else if p.le q then p :: q :: rest
      else q :: insertPath p rest

def erasePath (p : Path) (ps : List Path) : List Path :=
  ps.filter fun q => !q.same p

variable {σ : Type}

/-- Watches a tree; gives its canonical path. -/
def add (backend : WatchBackend σ) (p : Path) : Act (Watcher × σ) Failure Path := fun (w, s) =>
  match backend.canonical p s with
  | .error cause => (.error (.unresolved p cause), (w, s))
  | .ok c =>
      if w.attached then
        match backend.watch c s with
        | (.error wording, s) => (.error (.backend wording), (w, s))
        | (.ok (), s) => (.ok c, ({ w with watched := insertPath c w.watched }, s))
      else (.error .closed, (w, s))

/-- The path under which a tree is watched: as written if it is in the record, else canonical. -/
def key (backend : WatchBackend σ) (w : Watcher) (p : Path) (s : σ) : Except IoError Path :=
  if w.watches p then .ok p else backend.canonical p s

def remove (backend : WatchBackend σ) (p : Path) : Act (Watcher × σ) Failure Unit := fun (w, s) =>
  match key backend w p s with
  | .error cause => (.error (.unresolved p cause), (w, s))
  | .ok k =>
      if w.attached then
        match backend.unwatch k s with
        | (.error wording, s) => (.error (.backend wording), (w, s))
        | (.ok (), s) => (.ok (), ({ w with watched := erasePath k w.watched }, s))
      else (.error .closed, (w, s))

/-- Closes the watcher, unless it is closed; the record stays as it is. -/
def close (w : Watcher) : Watcher :=
  if w.closed then w else { w with attached := false, closed := true }

end Watcher
end Trainer
