import Trainer.Program
import Trainer.Session
import Trainer.Session.Typing
import Trainer.Watcher.Table

/-!
# Playing a session

A session on a machine in memory, with what the learner types and changes as its input.  The
effects of the session are carried out here: a run that is asked for is in flight until the machine
comes to rest, and events are taken one at a time while the session listens.
-/

namespace Trainer

/-- A session in progress. -/
structure Play where
  session : Session
  runner : Runner
  watcher : Watcher
  table : WatchTable
  machine : Sandbox
  /-- The exercise whose run is in flight. -/
  inFlight : Option Exercise
  /-- Whether the session waits for an event. -/
  listening : Bool

namespace Play

def store (p : Play) : ProgressStore Sandbox :=
  Sandbox.host.progressStore p.session.catalog.progressFile

/-- Gives the session a message without carrying out what it asks for. -/
def tell (m : Message) (p : Play) : List Effect × Play :=
  let ((session, effects), machine) := Session.update p.store m p.session p.machine
  (effects, { p with session, machine })

def carryOut (p : Play) : Effect → Play
  | .run e => { (p.tell (.runStarted e.name)).2 with inFlight := some e }
  | .awaitFileEvent => { p with listening := true }
  | .quit => p

/-- Gives the session a message and carries out what it asks for. -/
def give (m : Message) (p : Play) : Play :=
  let (effects, p) := p.tell m
  effects.foldl carryOut p

def start (w : Program.Workspace) (machine : Sandbox) : Play :=
  let (_, (watcher, (table, machine))) :=
    Watcher.add Sandbox.watchBackend w.config.exercisesPath
      (Watcher.fresh, (WatchTable.empty, machine))
  let (session, effects) :=
    (Session.ofCatalog w.catalog w.config.toolchain.sourceExtension).start
  effects.foldl carryOut
    { session, runner := w.runner, watcher, table, machine, inFlight := none, listening := false }

/-- Ends the run in flight, or takes the next event. -/
def advance (p : Play) : Option Play :=
  if p.session.quitting then none
  else
    match p.inFlight with
    -- The run in flight is over before the next event is taken.
    | some e =>
        let (v, machine) := p.runner.validate Sandbox.host e p.machine
        let table := p.table.noteChange p.machine.tree machine.tree none
        some (give (.runFinished e.name v) { p with machine, table, inFlight := none })
    | none =>
        match p.table.queue with
        | [] => none
        | event :: queue =>
            -- Events wait in their order until the session listens.
            if p.listening then
              some (give (.fileChanged event)
                { p with table := { p.table with queue }, listening := false })
            else none

/-- Goes on until nothing happens any more, at most so many times. -/
def restWithin : Nat → Play → Play
  | 0, p => p
  | n + 1, p =>
      match p.advance with
      | some p => restWithin n p
      | none => p

/-- Goes on until nothing happens any more. -/
def rest (p : Play) : Play :=
  restWithin (4 * p.table.queue.length + 1000) p

/-- Takes a key press; none counts after the learner has quit. -/
def press (p : Play) (k : KeyPress) : Play :=
  if p.session.quitting then p
  else
    match k.action? with
    | some a => give (.key a) p
    | none => p

/-- Takes what the learner types at once. -/
def type (s : String) (p : Play) : Play :=
  ((KeyPress.ofTyped s).foldl press p).rest

/-- Takes a change of the tree that wrote to `written` if it is a file. -/
def change (tree : FileTree) (written : Option (List String)) (p : Play) : Play :=
  ({ p with
    machine := { p.machine with tree }
    table := p.table.noteChange p.machine.tree tree written }).rest

end Play
end Trainer
