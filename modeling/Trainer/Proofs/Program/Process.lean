import Mathlib
import Trainer.Program
import Trainer.Proofs.Catalog.Completion
import Trainer.Proofs.Program.Plan

/-!
# A process of the program, step by step

A process takes the lock, reads the progress, stores it now and then, and gives the lock back.
Between any two of these steps other processes may have their turn, so a process is cut there: a
`Stage` is what it has in memory between two steps, and `Moves` lists its steps.  Each of them is
what the program does: it takes the lock by `SessionLock.acquire`, opens its workspace by
`Workspace.load`, stores what a change of the catalog or a message to the session stores
(`Plan.Describes`), step of a save by step of a save, and gives the lock back by
`SessionLock.release`.  Left open are the verdict on an exercise, which messages come to a session
and when it is over, and which steps fail; and a process may die at any time.

What is asked of the lock is `Host.Flock`: it is granted to one at a time, who can give it back.
-/

namespace Trainer

variable {σ : Type}

/-! ## The lock -/

/-- What a machine promises about the lock on a file, where another file keeps the progress. -/
structure Host.Flock (host : Host σ) (lockFile file : Path) where
  /-- The handle that has the lock, if one has it. -/
  holder : σ → Option Nat
  /-- The lock is granted only when nobody has it. -/
  granted {handle : Nat} {s s' : σ} : host.lock lockFile s = (.ok handle, s') →
    holder s = none ∧ holder s' = some handle
  /-- A refusal leaves the lock with the one who has it. -/
  refused {cause : LockRefusal} {s s' : σ} : host.lock lockFile s = (.error cause, s') →
    holder s' = holder s
  /-- The one who has the lock can give it back. -/
  freed {handle : Nat} {s : σ} : holder s = some handle → holder (host.unlock handle s) = none
  /-- Asking for the lock touches neither the progress nor the file beside it. -/
  look_lock {path : Path} {r : Except LockRefusal Nat} {s s' : σ} :
    path ∈ [file, Progress.sidePath file] → host.lock lockFile s = (r, s') →
    host.look path s' = host.look path s
  /-- Giving the lock back touches neither of them. -/
  look_unlock {path : Path} {handle : Nat} {s : σ} : path ∈ [file, Progress.sidePath file] →
    host.look path (host.unlock handle s) = host.look path s
  /-- Making the directory of the progress does not touch the lock. -/
  holder_makeDirs {dir : Path} {r : Except IoError Unit} {s s' : σ} : file.parent? = some dir →
    host.makeDirs dir s = (r, s') → holder s' = holder s
  /-- Writing the file beside the progress does not touch the lock. -/
  holder_write {text : String} {r : Except IoError Unit} {s s' : σ} :
    host.writeText (Progress.sidePath file) text s = (r, s') → holder s' = holder s
  /-- Replacing the progress does not touch the lock. -/
  holder_rename {r : Except IoError Unit} {s s' : σ} :
    host.rename (Progress.sidePath file) file s = (r, s') → holder s' = holder s

/-- A change of the machine that spares the progress, the file beside it and the lock. -/
structure Host.Flock.Spares {host : Host σ} {lockFile file : Path}
    (flock : host.Flock lockFile file) (s s' : σ) : Prop where
  look_file : host.look file s' = host.look file s
  look_side : host.look (Progress.sidePath file) s' = host.look (Progress.sidePath file) s
  holder : flock.holder s' = flock.holder s

/-! ## The stored record -/

namespace Progress

/-- The record of completions that is read from the file. -/
def Recorded (host : Host σ) (file : Path) (s : σ) (record : List (String × Bool)) : Prop :=
  ∃ p, load host file s = .ok p ∧ p.exercises = record

/-- The name is marked completed in the file. -/
def Completed (host : Host σ) (file : Path) (s : σ) (name : String) : Prop :=
  ∃ record, Recorded host file s record ∧ record.lookup name = some true

variable {host : Host σ} {file : Path} {s s' : σ} {record record' : List (String × Bool)}
  {name : String}

/-- What is recorded is read off the file alone. -/
theorem Recorded.congr (h : Recorded host file s record)
    (hlook : host.look file s' = host.look file s) : Recorded host file s' record := by
  obtain ⟨p, hload, hp⟩ := h
  exact ⟨p, (load_congr hlook).trans hload, hp⟩

/-- A file records one thing. -/
theorem Recorded.unique (h : Recorded host file s record) (h' : Recorded host file s record') :
    record = record' := by
  obtain ⟨p, hload, rfl⟩ := h
  obtain ⟨q, hload', rfl⟩ := h'
  rw [hload, Except.ok.injEq] at hload'
  rw [hload']

theorem Completed.congr (h : Completed host file s name)
    (hlook : host.look file s' = host.look file s) : Completed host file s' name := by
  obtain ⟨record, hrecord, hname⟩ := h
  exact ⟨record, hrecord.congr hlook, hname⟩

/-- A stored record with more completions takes the place of another. -/
theorem Completed.grows (h : Completed host file s name) (hrecord : Recorded host file s record)
    (hrecord' : Recorded host file s' record')
    (hgrows : ∀ n, record.lookup n = some true → record'.lookup n = some true) :
    Completed host file s' name := by
  obtain ⟨_, hread, hname⟩ := h
  rw [hread.unique hrecord] at hname
  exact ⟨record', hrecord', hgrows name hname⟩

/-! ## What is left of a save -/

/-- What is left to be done of a save. -/
inductive Left (host : Host σ) (file : Path) (p : Progress) (s : σ) : List SaveStep → Prop
  | all {dir : Path} (hdir : file.parent? = some dir) :
      Left host file p s [.makeDirs dir, .write (sidePath file) p.render,
        .replace (sidePath file) file]
  | write : Left host file p s [.write (sidePath file) p.render, .replace (sidePath file) file]
  /-- The file beside the progress is complete. -/
  | replace (hside : host.look (sidePath file) s = some (.ok p.render)) :
      Left host file p s [.replace (sidePath file) file]

variable {p : Progress} {step : SaveStep} {rest : List SaveStep}

/-- Before the first step of a save, all of it is left to do. -/
theorem left_saveSteps (host : Host σ) (file : Path) (p : Progress) (s : σ) :
    Left host file p s (p.saveSteps file) := by
  unfold saveSteps
  cases hparent : file.parent? with
  | none => exact .write
  | some dir => exact .all hparent

/-- What is left of a save depends on its side file alone. -/
theorem Left.congr {steps : List SaveStep} (h : Left host file p s steps)
    (hside : host.look (sidePath file) s' = host.look (sidePath file) s) :
    Left host file p s' steps := by
  cases h with
  | all hdir => exact .all hdir
  | write => exact .write
  | replace hwritten => exact .replace (hside.trans hwritten)

/-- A step that is not the last one leaves the progress as it is. -/
theorem Left.run_next {step' : SaveStep} (h : Left host file p s (step :: step' :: rest))
    (hkeeps : host.Keeps file) (hrun : step.run host s = (.ok (), s')) :
    host.look file s' = host.look file s ∧ Left host file p s' (step' :: rest) := by
  cases h with
  | all hdir =>
      rcases orElseFail_cases hrun with ⟨_, hmade, -⟩ | ⟨_, -, hno⟩
      · exact ⟨hkeeps.look_makeDirs hdir hmade, .write⟩
      · exact absurd hno (by simp)
  | write =>
      rcases orElseFail_cases hrun with ⟨_, hwritten, -⟩ | ⟨_, -, hno⟩
      · exact ⟨hkeeps.look_write hwritten, .replace (hkeeps.look_written hwritten)⟩
      · exact absurd hno (by simp)

/-- The last step puts what is saved in the place of the progress. -/
theorem Left.run_last (h : Left host file p s [step]) (hkeeps : host.Keeps file)
    (hrun : step.run host s = (.ok (), s')) : host.look file s' = some (.ok p.render) := by
  cases h with
  | replace hside =>
      rcases orElseFail_cases hrun with ⟨_, hrenamed, -⟩ | ⟨_, -, hno⟩
      · rw [hkeeps.look_renamed hrenamed, hside]
      · exact absurd hno (by simp)

/-- A step that fails leaves the progress as it is. -/
theorem Left.run_error {cause : SaveFailure} (h : Left host file p s (step :: rest))
    (hkeeps : host.Keeps file) (hrun : step.run host s = (.error cause, s')) :
    host.look file s' = host.look file s := by
  cases h with
  | all hdir =>
      rcases orElseFail_cases hrun with ⟨_, -, hno⟩ | ⟨_, hrefused, -⟩
      · exact absurd hno (by simp)
      · exact hkeeps.look_makeDirs hdir hrefused
  | write =>
      rcases orElseFail_cases hrun with ⟨_, -, hno⟩ | ⟨_, hrefused, -⟩
      · exact absurd hno (by simp)
      · exact hkeeps.look_write hrefused
  | replace hside =>
      rcases orElseFail_cases hrun with ⟨_, -, hno⟩ | ⟨_, hrefused, -⟩
      · exact absurd hno (by simp)
      · exact hkeeps.look_unrenamed hrefused

/-- No step of a save touches the lock. -/
theorem Left.holder_run {lockFile : Path} (flock : host.Flock lockFile file)
    {r : Except SaveFailure Unit} (h : Left host file p s (step :: rest))
    (hrun : step.run host s = (r, s')) : flock.holder s' = flock.holder s := by
  cases h with
  | all hdir =>
      rcases orElseFail_cases hrun with ⟨_, hmade, -⟩ | ⟨_, hmade, -⟩
      · exact flock.holder_makeDirs hdir hmade
      · exact flock.holder_makeDirs hdir hmade
  | write =>
      rcases orElseFail_cases hrun with ⟨_, hwritten, -⟩ | ⟨_, hwritten, -⟩
      · exact flock.holder_write hwritten
      · exact flock.holder_write hwritten
  | replace hside =>
      rcases orElseFail_cases hrun with ⟨_, hrenamed, -⟩ | ⟨_, hrenamed, -⟩
      · exact flock.holder_rename hrenamed
      · exact flock.holder_rename hrenamed

end Progress

namespace Program

/-! ## Stages -/

structure Process where
  config : Config
  command : Command

def Process.Stores (k : Process) : Prop :=
  k.command = .watch ∨ ∃ name, k.command = .run name

/-- A process that runs an exercise has checked the one it was asked for, and that one is `done`. -/
def Process.Ran (k : Process) (ran : Option String) (done : String → Prop) : Prop :=
  ∀ name, k.command = .run name → ∃ x, ran = some x ∧ (∀ n ∈ name, x = n) ∧ done x

/-- What a process with the lock does next. -/
inductive Rest where
  | watching (session : Session)
  /-- Nothing is stored any more; `ran` is the exercise that was checked. -/
  | leaving (code : Nat) (ran : Option String)

/-- What a process has in memory between two of its steps. -/
inductive Stage where
  | begun
  /-- It has the lock and has not read the progress. -/
  | opening (lock : SessionLock)
  | checking (lock : SessionLock) (workspace : Workspace) (exercise : Exercise)
  | holding (lock : SessionLock) (rest : Rest)
  /-- A save is going on, and `next` is what follows it. -/
  | saving (lock : SessionLock) (steps : List Progress.SaveStep)
      (next : Except Progress.SaveFailure Unit → Rest)
  /-- It has ended, with a code unless it was killed. -/
  | ended (code : Option Nat) (ran : Option String)

namespace Stage

def lock? : Stage → Option SessionLock
  | begun => none
  | opening lock => some lock
  | checking lock _ _ => some lock
  | holding lock _ => some lock
  | saving lock _ _ => some lock
  | ended _ _ => none

/-- Whether a process is between its reading of the progress and the last save that may follow. -/
def engaged : Stage → Bool
  | checking _ _ _ => true
  | holding _ (.watching _) => true
  | saving _ _ _ => true
  | _ => false

/-- A process that is engaged holds the lock. -/
theorem isSome_lock?_of_engaged {stage : Stage} (h : stage.engaged = true) :
    stage.lock?.isSome = true := by
  cases stage with
  | begun => cases h
  | opening lock => rfl
  | checking lock w e => rfl
  | holding lock rest => rfl
  | saving lock steps next => rfl
  | ended code ran => cases h

/-- Carries out a plan of a process with the lock. -/
def ofPlan (lock : SessionLock) (file : Path) : Plan Rest → Stage
  | .done rest => holding lock rest
  | .save p next => saving lock (p.saveSteps file) next

@[simp] theorem lock?_ofPlan (lock : SessionLock) (file : Path) (plan : Plan Rest) :
    (ofPlan lock file plan).lock? = some lock := by
  cases plan with
  | done rest => rfl
  | save p next => rfl

end Stage

/-! ## Steps -/

/-- The end of a check, by what came of counting the attempt. -/
def checked (e : Exercise) (v : Verdict) (x : Except Catalog.Failure Nat × Catalog) : Rest :=
  .leaving (if x.1.isOk && v.success then 0 else 1) (some e.name)

/-- The workspace and the exercise that a process is asked to check. -/
def openFor (host : Host σ) (config : Config) (name : Option String) (s : σ) :
    Except String (Workspace × Exercise) :=
  (Workspace.load host config s).bind fun w => (w.select name).map fun e => (w, e)

def firstSession (w : Workspace) : Session :=
  (Session.ofCatalog w.catalog w.config.toolchain.sourceExtension).start.1

variable {host : Host σ} {lockFile file : Path}

/-- The steps of a process.  A workspace is opened on any machine `t` with the same progress, for
the exercises may be read before and after steps of others. -/
inductive Moves (flock : host.Flock lockFile file) (k : Process) : Stage → σ → Stage → σ → Prop
  | locked {lock : SessionLock} {s s' : σ} (hstores : k.Stores)
      (h : SessionLock.acquire host k.config.lockPath s = (.ok lock, s')) :
      Moves flock k .begun s (.opening lock) s'
  | refused {f : SessionLock.Failure} {s s' : σ} (hstores : k.Stores)
      (h : SessionLock.acquire host k.config.lockPath s = (.error f, s')) :
      Moves flock k .begun s (.ended (some 1) none) s'
  | listed {paint : Paint} {printed : Printed} {code : Nat} {s s' : σ}
      (hcommand : k.command = .list)
      (h : list host paint k.config s = ((printed, .exit code), s')) :
      Moves flock k .begun s (.ended (some code) none) s'
  | hinted {name : Option String} {level : Option Nat} {paint : Paint} {printed : Printed}
      {code : Nat} {s s' : σ} (hcommand : k.command = .hint name level)
      (h : hint host paint k.config name level s = ((printed, .exit code), s')) :
      Moves flock k .begun s (.ended (some code) none) s'
  | selected {lock : SessionLock} {name : Option String} {w : Workspace} {e : Exercise} {s t : σ}
      (hcommand : k.command = .run name) (hlook : host.look file t = host.look file s)
      (h : openFor host k.config name t = .ok (w, e)) :
      Moves flock k (.opening lock) s (.checking lock w e) s
  | unselected {lock : SessionLock} {name : Option String} {text : String} {s t : σ}
      (hcommand : k.command = .run name) (h : openFor host k.config name t = .error text) :
      Moves flock k (.opening lock) s (.holding lock (.leaving 1 none)) s
  | started {lock : SessionLock} {w : Workspace} {s t : σ} (hcommand : k.command = .watch)
      (hlook : host.look file t = host.look file s) (h : Workspace.load host k.config t = .ok w) :
      Moves flock k (.opening lock) s (.holding lock (.watching (firstSession w))) s
  | unstarted {lock : SessionLock} {text : String} {s t : σ} (hcommand : k.command = .watch)
      (h : Workspace.load host k.config t = .error text) :
      Moves flock k (.opening lock) s (.holding lock (.leaving 1 none)) s
  /-- There is a verdict on the exercise, and the attempt is counted. -/
  | judged {lock : SessionLock} {w : Workspace} {e : Exercise} {v : Verdict}
      {plan : Plan (Except Catalog.Failure Nat × Catalog)} {s : σ}
      (h : plan.Describes (host.now s) fun _ store t =>
        Catalog.regroup (Catalog.recordAttempt store e.name v.success (w.catalog, t))) :
      Moves flock k (.checking lock w e) s
        (.ofPlan lock w.catalog.progressFile (plan.map (checked e v))) s
  /-- A message comes to the session. -/
  | told {lock : SessionLock} {session : Session} {m : Message}
      {plan : Plan (Session × List Effect)} {s : σ}
      (h : plan.Describes (host.now s) fun _ store t => session.update store m t) :
      Moves flock k (.holding lock (.watching session)) s
        (.ofPlan lock session.catalog.progressFile (plan.map fun x => .watching x.1)) s
  /-- The session is over. -/
  | closed {lock : SessionLock} {session : Session} {code : Nat} {s : σ} :
      Moves flock k (.holding lock (.watching session)) s
        (.holding lock (.leaving code none)) s
  | stepped {lock : SessionLock} {step step' : Progress.SaveStep}
      {rest : List Progress.SaveStep} {next : Except Progress.SaveFailure Unit → Rest} {s s' : σ}
      (h : step.run host s = (.ok (), s')) :
      Moves flock k (.saving lock (step :: step' :: rest) next) s
        (.saving lock (step' :: rest) next) s'
  | saved {lock : SessionLock} {step : Progress.SaveStep}
      {next : Except Progress.SaveFailure Unit → Rest} {s s' : σ}
      (h : step.run host s = (.ok (), s')) :
      Moves flock k (.saving lock [step] next) s (.holding lock (next (.ok ()))) s'
  | unsaved {lock : SessionLock} {step : Progress.SaveStep} {rest : List Progress.SaveStep}
      {next : Except Progress.SaveFailure Unit → Rest} {cause : Progress.SaveFailure} {s s' : σ}
      (h : step.run host s = (.error cause, s')) :
      Moves flock k (.saving lock (step :: rest) next) s
        (.holding lock (next (.error cause))) s'
  | released {lock : SessionLock} {code : Nat} {ran : Option String} {s : σ} :
      Moves flock k (.holding lock (.leaving code ran)) s (.ended (some code) ran)
        (SessionLock.release host lock s)
  | died {s : σ} : Moves flock k .begun s (.ended none none) s
  /-- The lock of a process that dies is given back.  What it was writing beside the progress may
  be there in part. -/
  | killed {stage : Stage} {lock : SessionLock} {s t : σ} (hlock : stage.lock? = some lock)
      (hlook : host.look file t = host.look file s)
      (hholder : flock.holder t = flock.holder s) :
      Moves flock k stage s (.ended none none) (SessionLock.release host lock t)

end Program
end Trainer
