import Trainer.Sandbox
import Trainer.Watcher

/-!
# Watching a tree in memory

The system's side of a watcher on a machine in memory: a table of watched places, one for every
directory of a watched tree, and the events that changes to the tree give rise to.
-/

namespace Trainer

structure WatchedPlace where
  names : List String
  isDirectory : Bool
  /-- Whether the removal of the place itself is an event of the place. -/
  reportsItself : Bool
deriving DecidableEq, Repr

/-- The watched places, and the events that nobody has taken yet, the oldest first. -/
structure WatchTable where
  places : List WatchedPlace
  queue : List FileEvent
deriving DecidableEq, Repr, Inhabited

namespace WatchTable

def empty : WatchTable := ⟨[], []⟩

def find? (t : WatchTable) (names : List String) : Option WatchedPlace :=
  t.places.find? fun w => w.names == names

def forget (t : WatchTable) (names : List String) : WatchTable :=
  { t with places := t.places.filter fun w => w.names != names }

/-- Watches one place; a place that is watched already keeps what it reports. -/
def watchPlace (t : WatchTable) (w : WatchedPlace) : WatchTable :=
  let before := ((t.find? w.names).map (·.reportsItself)).getD false
  { t with
    places := { w with reportsItself := w.reportsItself || before } :: (t.forget w.names).places }

def directoriesBelow (tree : FileTree) (names : List String) : List (List String) :=
  tree.entries.filterMap fun x =>
    match x.2 with
    | .directory => if names.isPrefixOf x.1 && x.1 != names then some x.1 else none
    | .file _ _ => none

/-- Watches a place, and every directory below it. -/
def watchTree (tree : FileTree) (names : List String) (reportsItself : Bool) (t : WatchTable) :
    WatchTable :=
  match tree.get? names with
  | some .directory =>
      (directoriesBelow tree names).foldl (fun t d => t.watchPlace ⟨d, true, false⟩)
        (t.watchPlace ⟨names, true, reportsItself⟩)
  | _ => t.watchPlace ⟨names, false, reportsItself⟩

/-- Stops watching a place and, if it is a directory, what is watched below it. -/
def unwatchTree (names : List String) (t : WatchTable) : Option WatchTable :=
  match t.find? names with
  | none => none
  | some w =>
      if w.isDirectory then
        some { t with places := t.places.filter fun v => !names.isPrefixOf v.names }
      else some (t.forget names)

/-! ## Events -/

/-- Adds what a notification means to the events. -/
def notify (kind : NotificationKind) (names : List String) (t : WatchTable) : WatchTable :=
  { t with queue := t.queue ++ FileEvent.ofNotification ⟨kind, [Path.ofNames names]⟩ }

/-- Tells those who watch the directory that a place lies in. -/
def tellDirectory (kind : NotificationKind) (names : List String) (t : WatchTable) : WatchTable :=
  if names != [] && (t.find? names.dropLast).isSome then t.notify kind names else t

/-- Tells those who watch a file, by its directory or by itself. -/
def tellBoth (kind : NotificationKind) (names : List String) (t : WatchTable) : WatchTable :=
  let t := t.tellDirectory kind names
  match t.find? names with
  | some w => if w.isDirectory then t else t.notify kind names
  | none => t

def directoryMade (tree : FileTree) (names : List String) (t : WatchTable) : WatchTable :=
  if names != [] && (t.find? names.dropLast).isSome then
    watchTree tree names false (t.notify .create names)
  else t

/-- A file was written as a whole; writing nothing to a new file is only its creation. -/
def fileWritten (existed hasContents : Bool) (names : List String) (t : WatchTable) :
    WatchTable :=
  let t := if existed then t.tellBoth (.modify .data) names else t.tellDirectory .create names
  if hasContents then t.tellBoth (.modify .data) names else t

/-- A place was removed, after everything below it. -/
def placeRemoved (names : List String) (t : WatchTable) : WatchTable :=
  match t.find? names with
  | none => t.tellDirectory .remove names
  | some w =>
      -- A file that is watched by itself hears of its lost name before it goes.
      let t := if w.isDirectory then t else t.notify (.modify .metadata) names
      let t := t.tellDirectory .remove names
      (if w.reportsItself then t.notify .remove names else t).forget names

/-- Takes events until a wanted one has come; says whether it has. -/
def await (wanted : FileEvent → Bool) (t : WatchTable) : Bool × WatchTable :=
  match t.queue.dropWhile fun e => !wanted e with
  | [] => (false, { t with queue := [] })
  | _ :: rest => (true, { t with queue := rest })

/-! ## Changes of a tree -/

/-- The places that are in one tree and not in another, those further up first. -/
def missingIn (other tree : FileTree) : List (List String × Entry) :=
  (tree.entries.filter fun x => (other.get? x.1).isNone).mergeSort fun a b =>
    decide (a.1.length ≤ b.1.length)

/-- The events of a change that wrote to `written` if it is a file, made places and removed some. -/
def noteChange (before after : FileTree) (written : Option (List String)) (t : WatchTable) :
    WatchTable :=
  let t := (missingIn after before).reverse.foldl (fun t x => t.placeRemoved x.1) t
  let made := missingIn before after
  let t := made.foldl (fun t x =>
    match x.2 with
    | .directory => directoryMade after x.1 t
    | .file _ _ => t) t
  match written with
  | none => t
  | some names =>
      match after.get? names with
      | some (.file _ contents) =>
          t.fileWritten (before.get? names).isSome (contents.size != 0) names
      | _ => t

end WatchTable

/-! ## The backend -/

namespace Sandbox

/-- A text between quotes, with the signs that would end it written with a backslash. -/
def quotedPath (p : Path) : String :=
  let escape (c : Char) : List Char :=
    if c = '"' ∨ c = '\\' then ['\\', c]
    else if c = '\n' then ['\\', 'n']
    else if c = '\r' then ['\\', 'r']
    else if c = '\t' then ['\\', 't']
    else [c]
  String.ofList (['"'] ++ p.text.toList.flatMap escape ++ ['"'])

/-- The complaint about a place that is not watched. -/
def unwatchedText (p : Path) : String :=
  "No watch was found. about [" ++ quotedPath p ++ "]"

/-- The watching of a machine in memory. -/
def watchBackend : WatchBackend (WatchTable × Sandbox) where
  canonical := fun p s => s.2.tree.canonical p
  watch := fun p s =>
    match s.2.tree.resolve p with
    | .ok names => (.ok (), (WatchTable.watchTree s.2.tree names true s.1, s.2))
    | .error e => (.error e.message, s)
  unwatch := fun p s =>
    let names := p.components.filterMap fun c =>
      match c with
      | .name n => some n
      | _ => none
    match s.1.unwatchTree names with
    | some table => (.ok (), (table, s.2))
    | none => (.error (unwatchedText p), s)

end Sandbox
end Trainer
