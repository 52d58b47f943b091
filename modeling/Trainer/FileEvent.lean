import Trainer.Path

/-!
# File events

What a watcher hears from the system is sorted into five kinds of events, one for each path that
is concerned; what is no change is no event.
-/

namespace Trainer

inductive ChangeKind where
  | any
  | data
  | metadata
  | name
  | other
deriving DecidableEq, Repr

/-- What the system says has happened. -/
inductive NotificationKind where
  | access
  | create
  | remove
  | modify (what : ChangeKind)
  | any
  | other
deriving DecidableEq, Repr

structure Notification where
  kind : NotificationKind
  paths : List Path
deriving DecidableEq, Repr

inductive FileEventKind where
  | write
  | create
  | remove
  | rename
  | attribute
deriving DecidableEq, Repr

def FileEventKind.label : FileEventKind → String
  | .write => "write"
  | .create => "create"
  | .remove => "remove"
  | .rename => "rename"
  | .attribute => "attribute"

/-- The kind of event that a notification means, if it means a change. -/
def FileEventKind.of? : NotificationKind → Option FileEventKind
  | .create => some .create
  | .remove => some .remove
  | .modify .name => some .rename
  | .modify .metadata => some .attribute
  | .modify _ => some .write
  | .access => none
  | .any => none
  | .other => none

structure FileEvent where
  path : Path
  kind : FileEventKind
deriving DecidableEq, Repr

def FileEvent.ofNotification (n : Notification) : List FileEvent :=
  match FileEventKind.of? n.kind with
  | some kind => n.paths.map fun path => ⟨path, kind⟩
  | none => []

end Trainer
