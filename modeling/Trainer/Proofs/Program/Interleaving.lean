import Mathlib
import Trainer.Proofs.Program.Cabinet
import Trainer.Proofs.Program.Undisturbed

/-!
# Processes that take turns

Any number of processes work on one state directory, and their steps interleave in any order
(`World.Step`), also with changes of the machine by others that spare the progress and its lock.
`no_completion_lost` is what the lock is for: at most one process is between its reading of the
progress and its last save, no completion is ever taken out of the stored record, and a run that
has ended with success has left one.

The commands of the program, as a whole, are among the ways in which processes go on
(`leads_of_command`, `Sound.leads_of_update`).

## The argument

The invariant is `World.Sound`: who has the lock on the machine is the one process that has it in
memory, and all stages are sound.  When a process with the lock has its turn, the others have no
lock, and rely on nothing but the growth of the record; when a process without the lock has its
turn, it leaves the progress alone.
-/

namespace Trainer
namespace Program

open Progress (Completed)

variable {σ ι : Type}

/-- A machine, and the stages of the processes on it. -/
structure World (σ ι : Type) where
  machine : σ
  stage : ι → Stage

namespace World

variable {host : Host σ} {lockFile file : Path} {flock : host.Flock lockFile file}
  {k : ι → Process} {w w' : World σ ι}

/-- One process has its turn, or the machine changes without any. -/
inductive Step [DecidableEq ι] (flock : host.Flock lockFile file) (k : ι → Process) :
    Option ι → World σ ι → World σ ι → Prop
  | process (i : ι) {w : World σ ι} {stage : Stage} {s : σ}
      (h : Moves flock (k i) (w.stage i) w.machine stage s) :
      Step flock k (some i) w ⟨s, Function.update w.stage i stage⟩
  | elsewhere {w : World σ ι} {s : σ} (h : flock.Spares w.machine s) :
      Step flock k none w ⟨s, w.stage⟩

/-- Some turns lead from one world to another. -/
def Leads [DecidableEq ι] (flock : host.Flock lockFile file) (k : ι → Process) :
    World σ ι → World σ ι → Prop :=
  Relation.ReflTransGen fun w w' => ∃ turn, Step flock k turn w w'

/-- All processes have the files of one state directory. -/
structure Shared (k : ι → Process) (lockFile file : Path) : Prop where
  progress : ∀ i, (k i).config.progressPath = file
  lock : ∀ i, (k i).config.lockPath = lockFile

/-! ## The invariant -/

/-- The lock is with the process that has it in memory, and with one process at most. -/
structure Locked (flock : host.Flock lockFile file) (k : ι → Process) (w : World σ ι) : Prop where
  held : ∀ i lock, (w.stage i).lock? = some lock → flock.holder w.machine = some lock.handle
  alone : ∀ i j, (w.stage i).lock?.isSome = true → (w.stage j).lock?.isSome = true → i = j
  stores : ∀ i, (w.stage i).lock?.isSome = true → (k i).Stores

/-- The lock is with one process at most, and all stages are sound. -/
structure Sound (flock : host.Flock lockFile file) (k : ι → Process) (w : World σ ι) : Prop where
  locks : Locked flock k w
  sound : ∀ i, (w.stage i).Sound host (k i) file w.machine

/-- Nobody has the lock. -/
theorem locked_of_none (hnone : ∀ i, (w.stage i).lock? = none) : Locked flock k w := by
  refine ⟨fun i lock hlock => ?_, fun i j hi => ?_, fun i hi => ?_⟩
  · rw [hnone] at hlock
    cases hlock
  · rw [hnone] at hi
    cases hi
  · rw [hnone] at hi
    cases hi

/-- Before any process has taken a step there is nothing to be kept. -/
theorem sound_of_begun (hbegun : ∀ i, w.stage i = .begun) : Sound flock k w := by
  refine ⟨locked_of_none fun i => ?_, fun i => ?_⟩
  · rw [hbegun]
    rfl
  · rw [hbegun]
    exact .begun

/-- Nobody else has the lock when a process takes it or gives it back. -/
theorem Locked.none_of_turn {i : ι} {stage : Stage} {s : σ} (hw : Locked flock k w)
    (hturn : Turn flock (k i) (w.stage i) w.machine stage s)
    (hchange : stage.lock? ≠ (w.stage i).lock?) {j : ι} (hj : j ≠ i) :
    (w.stage j).lock? = none := by
  by_contra hsome
  cases hturn with
  | kept lock => exact hchange lock
  | taken _ free =>
      obtain ⟨lock, hlock⟩ := Option.ne_none_iff_exists'.1 hsome
      have hholder := hw.held j lock hlock
      rw [free] at hholder
      cases hholder
  | given before =>
      refine hj (hw.alone j i (Option.isSome_iff_ne_none.2 hsome) ?_)
      rw [before]
      rfl

/-- The stages of the others stay sound when a process has its turn. -/
theorem Sound.others {i j : ι} {stage : Stage} {s : σ} (hw : Sound flock k w)
    (hshared : Shared k lockFile file) (hkeeps : host.Keeps file)
    (h : Moves flock (k i) (w.stage i) w.machine stage s) (hj : j ≠ i) :
    (w.stage j).Sound host (k j) file s := by
  cases hlock : (w.stage j).lock? with
  | none =>
      -- Without the lock, `j` relies on nothing but the growth of the record.
      exact (hw.sound j).of_unlocked hlock fun n hn =>
        h.grows (hw.sound i) (hshared.lock i) hkeeps hn
  | some lock =>
      -- The lock is with `j`, so `i` does not have it and leaves the progress alone.
      have hnone : (w.stage i).lock? = none := by
        by_contra hsome
        refine hj (hw.locks.alone j i ?_ (Option.isSome_iff_ne_none.2 hsome))
        rw [hlock]
        rfl
      exact (hw.sound j).congr (h.quiet hnone (hshared.lock i) (by simp))
        (h.quiet hnone (hshared.lock i) (by simp))

variable [DecidableEq ι]

/-- The locks after the turn of a process. -/
theorem lock?_update {stage : Stage} (i j : ι) :
    (Function.update w.stage i stage j).lock? =
      if j = i then stage.lock? else (w.stage j).lock? := by
  by_cases hj : j = i
  · subst hj
    simp
  · simp [hj]

/-- What a turn does to the lock keeps it with one process at most. -/
theorem Locked.turn {i : ι} {stage : Stage} {s : σ} (hw : Locked flock k w)
    (hturn : Turn flock (k i) (w.stage i) w.machine stage s) :
    Locked flock k ⟨s, Function.update w.stage i stage⟩ := by
  have hothers := hw.none_of_turn hturn
  cases hturn with
  | kept lock holder =>
      -- The locks in memory are the same as before.
      have hsame (j : ι) : (Function.update w.stage i stage j).lock? = (w.stage j).lock? := by
        rw [lock?_update]
        split
        · rename_i hj
          rw [hj, lock]
        · rfl
      refine ⟨fun j l hl => ?_, fun j j' hj hj' => ?_, fun j hj => ?_⟩
      · rw [hsame] at hl
        exact holder.trans (hw.held j l hl)
      · rw [hsame] at hj hj'
        exact hw.alone j j' hj hj'
      · rw [hsame] at hj
        exact hw.stores j hj
  | taken stores free before after holder =>
      -- The process that has taken the lock is the only one that has it.
      have honly (j : ι) (hj : (Function.update w.stage i stage j).lock?.isSome = true) :
          j = i := by
        by_contra hne
        rw [lock?_update, if_neg hne, hothers (by simp [before, after]) hne] at hj
        cases hj
      refine ⟨fun j l hl => ?_, fun j j' hj hj' => ?_, fun j hj => ?_⟩
      · obtain rfl := honly j (by rw [hl]; rfl)
        rw [lock?_update, if_pos rfl, after] at hl
        cases hl
        exact holder
      · rw [honly j hj, honly j' hj']
      · rw [honly j hj]
        exact stores
  | given before after holder =>
      -- Nobody has the lock any more.
      refine locked_of_none fun j => ?_
      rw [lock?_update]
      split
      · exact after
      · rename_i hne
        exact hothers (by simp [before, after]) hne

/-- A turn of a process keeps the invariant. -/
theorem Sound.process {i : ι} {stage : Stage} {s : σ} (hw : Sound flock k w)
    (hshared : Shared k lockFile file) (hkeeps : host.Keeps file)
    (hclock : ∀ s, (host.now s).isValid = true)
    (h : Moves flock (k i) (w.stage i) w.machine stage s) :
    Sound flock k ⟨s, Function.update w.stage i stage⟩ := by
  have hturn := h.turn (hw.sound i) (hshared.lock i) (hw.locks.held i)
  refine ⟨hw.locks.turn hturn, fun j => ?_⟩
  change (Function.update w.stage i stage j).Sound host (k j) file s
  by_cases hj : j = i
  · subst hj
    rw [Function.update_self]
    exact h.sound (hw.sound j) (hshared.progress j) hkeeps hclock
  · rw [Function.update_of_ne hj]
    exact hw.others hshared hkeeps h hj

/-- What is kept over all processes is kept by a step of any one of them. -/
theorem Sound.step {turn : Option ι} (hw : Sound flock k w) (hshared : Shared k lockFile file)
    (hkeeps : host.Keeps file) (hclock : ∀ s, (host.now s).isValid = true)
    (h : Step flock k turn w w') : Sound flock k w' := by
  cases h with
  | process i hmoves => exact hw.process hshared hkeeps hclock hmoves
  | elsewhere hspares =>
      refine ⟨⟨fun i lock hlock => ?_, hw.locks.alone, hw.locks.stores⟩, fun i => ?_⟩
      · exact hspares.holder.trans (hw.locks.held i lock hlock)
      · exact (hw.sound i).congr hspares.look_file hspares.look_side

/-- What is kept over all processes is kept over any number of steps, by induction on them. -/
theorem Sound.leads (hw : Sound flock k w) (hshared : Shared k lockFile file)
    (hkeeps : host.Keeps file) (hclock : ∀ s, (host.now s).isValid = true)
    (h : Leads flock k w w') : Sound flock k w' := by
  induction h with
  | refl => exact hw
  | tail _ hstep ih =>
      obtain ⟨turn, hturn⟩ := hstep
      exact ih.step hshared hkeeps hclock hturn

/-! ## The stored record -/

/-- No turn takes a completion out of the stored record. -/
theorem Sound.grows_step {turn : Option ι} (hw : Sound flock k w)
    (hshared : Shared k lockFile file) (hkeeps : host.Keeps file) (h : Step flock k turn w w')
    {n : String} (hn : Completed host file w.machine n) : Completed host file w'.machine n := by
  cases h with
  | process i hmoves => exact hmoves.grows (hw.sound i) (hshared.lock i) hkeeps hn
  | elsewhere hspares => exact hn.congr hspares.look_file

/-- A completion that is stored stays stored, whoever goes on. -/
theorem Sound.grows (hw : Sound flock k w) (hshared : Shared k lockFile file)
    (hkeeps : host.Keeps file) (hclock : ∀ s, (host.now s).isValid = true)
    (h : Leads flock k w w') {n : String} (hn : Completed host file w.machine n) :
    Completed host file w'.machine n := by
  induction h with
  | refl => exact hn
  | tail hpath hstep ih =>
      obtain ⟨turn, hturn⟩ := hstep
      exact (hw.leads hshared hkeeps hclock hpath).grows_step hshared hkeeps hturn ih

/-! ## Commands among others -/

/-- What a process does by itself, it can do in a world of many. -/
theorem leads_of_proceeds {i : ι} {stage : Stage} {s : σ}
    (h : Proceeds flock (k i) (w.stage i) w.machine stage s) :
    Leads flock k w ⟨s, Function.update w.stage i stage⟩ := by
  induction h with
  | refl =>
      rw [Function.update_eq_self]
      exact .refl
  | @move stage' stage'' s' s'' _ hmove ih =>
      refine ih.tail ⟨some i, ?_⟩
      have hthere : Moves flock (k i) (Function.update w.stage i stage' i) s' stage'' s'' := by
        rw [Function.update_self]
        exact hmove
      have hturn := Step.process (w := ⟨s', Function.update w.stage i stage'⟩) i hthere
      rw [Function.update_idem] at hturn
      exact hturn
  | spared _ hspares ih => exact ih.tail ⟨none, .elsewhere hspares⟩

/-- A command that is not disturbed is one way for its process to go on. -/
theorem leads_of_command {i : ι} {paint : Paint} {printed : Printed} {ending : Ending} {s : σ}
    (hshared : Shared k lockFile file)
    (hvalidate : ∀ {r : Runner} {e : Exercise} {v : Verdict} {t t' : σ},
      r.validate host e t = (v, t') → flock.Spares t t')
    (hbegun : w.stage i = .begun)
    (h : (k i).perform host paint w.machine = ((printed, ending), s)) :
    ∃ stage, ending.Leaves stage ∧ Leads flock k w ⟨s, Function.update w.stage i stage⟩ := by
  obtain ⟨stage, hleaves, hpath⟩ := proceeds_of_command (hshared.progress i) hvalidate h
  rw [← hbegun] at hpath
  exact ⟨stage, hleaves, leads_of_proceeds hpath⟩

/-- A message that a session takes without being disturbed is one way for its process to go on. -/
theorem Sound.leads_of_update {i : ι} {lock : SessionLock} {session session' : Session}
    {m : Message} {effects : List Effect} {s : σ} (hw : Sound flock k w)
    (hstage : w.stage i = .holding lock (.watching session))
    (h : session.update (host.progressStore file) m w.machine = ((session', effects), s)) :
    Leads flock k w
      ⟨s, Function.update w.stage i (.holding lock (.watching session'))⟩ := by
  have hsound := hw.sound i
  rw [hstage] at hsound
  cases hsound with
  | watching watch stored holds =>
      have hpath : Proceeds flock (k i) (.holding lock (.watching session)) w.machine
          (.holding lock (.watching session')) s := proceeds_of_update holds h
      rw [← hstage] at hpath
      exact leads_of_proceeds hpath

/-! ## No completion is lost -/

/--
Whatever processes have begun on one state directory, and however their steps interleave: at most
one of them is between its reading of the progress and its last save; no name that is marked
completed in the file is ever unmarked; the exercise of a run that has ended with code 0 is marked
from then on; only a process that has the lock changes what is found at the file; and a list or a
hint changes nothing on the machine.
-/
theorem no_completion_lost {w₀ : World σ ι} (hshared : Shared k lockFile file)
    (hkeeps : host.Keeps file) (hclock : ∀ s, (host.now s).isValid = true)
    (hbegun : ∀ i, w₀.stage i = .begun) (hleads : Leads flock k w₀ w) :
    (∀ i j, (w.stage i).engaged = true → (w.stage j).engaged = true → i = j) ∧
      (∀ w', Leads flock k w w' → ∀ n,
        Completed host file w.machine n → Completed host file w'.machine n) ∧
      (∀ i ran, w.stage i = .ended (some 0) ran → (k i).Ran ran fun x =>
        ∀ w', Leads flock k w w' → Completed host file w'.machine x) ∧
      (∀ i w', Step flock k (some i) w w' →
        host.look file w'.machine ≠ host.look file w.machine →
          (w.stage i).lock?.isSome = true ∧ (k i).Stores) ∧
      ∀ i w', Step flock k (some i) w w' → ¬(k i).Stores → w'.machine = w.machine := by
  have hw := (sound_of_begun hbegun).leads hshared hkeeps hclock hleads
  refine ⟨fun i j hi hj => ?_, fun w' hleads' n hn => ?_, fun i ran hended => ?_,
    fun i w' hstep hchange => ?_, fun i w' hstep hno => ?_⟩
  · exact hw.locks.alone i j (Stage.isSome_lock?_of_engaged hi) (Stage.isSome_lock?_of_engaged hj)
  · exact hw.grows hshared hkeeps hclock hleads' hn
  · have hsound := hw.sound i
    rw [hended] at hsound
    cases hsound with
    | ended done =>
        exact (done rfl).mono fun x hx w' hleads' =>
          hw.grows hshared hkeeps hclock hleads' hx
  · cases hstep with
    | process _ hmoves =>
        have hsome : (w.stage i).lock?.isSome = true := by
          by_contra hno
          have hnone : (w.stage i).lock? = none := by simpa using hno
          exact hchange (hmoves.quiet hnone (hshared.lock i) (by simp))
        exact ⟨hsome, hw.locks.stores i hsome⟩
  · cases hstep with
    | process _ hmoves =>
        refine hmoves.eq_of_not_stores hno ?_
        by_contra hsome
        exact hno (hw.locks.stores i (Option.isSome_iff_ne_none.2 hsome))

/-! ## Two processes and one lock -/

/-- A project where everything is as usual. -/
def helloConfig : Config :=
  Config.standard ⟨"/kata"⟩

/-- One process is to run the exercise, the other one is to watch. -/
def helloProcesses (i : Fin 2) : Process :=
  ⟨helloConfig, if i = 0 then .run (some "hello") else .watch⟩

/-- The machine, at half past eight. -/
def helloHost : Host Cabinet :=
  Cabinet.host ⟨2024, 5, 17, 8, 30, 0, 0⟩

/-- Its lock and its progress. -/
def helloFlock : helloHost.Flock helloConfig.lockPath helloConfig.progressPath :=
  Cabinet.flock _ _ _

/-- A machine with the exercise and room for more files. -/
def helloCabinet : Cabinet where
  shelf := { Catalog.helloShelf with full := false }
  locked := false

/-- The lock that the first process takes. -/
def helloLock : SessionLock := ⟨helloConfig.lockPath, 0⟩

/-- The machine when the first process has taken the lock. -/
def helloLocked : Cabinet := { helloCabinet with locked := true }

/-- What the first process opens. -/
def helloOpened : Workspace × Exercise :=
  (openFor helloHost helloConfig (some "hello") helloLocked).toOption.getD default

/-- The verdict on the exercise, and the machine after it. -/
def helloJudged : Verdict × Cabinet :=
  helloOpened.1.runner.validate helloHost helloOpened.2 helloLocked

/-- The attempt that is counted and stored. -/
def helloCounted : Except Catalog.Failure Nat × (Catalog × Cabinet) :=
  Catalog.recordAttempt (helloHost.progressStore helloConfig.progressPath) helloOpened.2.name
    helloJudged.1.success (helloOpened.1.catalog, helloJudged.2)

/-- Both processes have begun. -/
def helloBegun : World Cabinet (Fin 2) := ⟨helloCabinet, fun _ => .begun⟩

/-- The first process has the lock, and the second one has been refused. -/
def helloRefused : World Cabinet (Fin 2) where
  machine := helloLocked
  stage := Function.update (Function.update helloBegun.stage 0 (.opening helloLock)) 1
    (.ended (some 1) none)

/-- The first process takes the lock, and the second one asks for it. -/
theorem leads_helloRefused : Leads helloFlock helloProcesses helloBegun helloRefused := by
  have hlocked : Proceeds helloFlock (helloProcesses 0) .begun helloCabinet (.opening helloLock)
      helloLocked := (Moves.locked (.inr ⟨_, rfl⟩) rfl).proceeds
  have hrefused : Moves helloFlock (helloProcesses 1) .begun helloLocked (.ended (some 1) none)
      helloLocked := .refused (.inl rfl) rfl
  exact (leads_of_proceeds hlocked).tail ⟨some 1, .process 1 hrefused⟩

/-- The first process has run the exercise and given the lock back. -/
def helloEnded : World Cabinet (Fin 2) where
  machine := SessionLock.release helloHost helloLock helloCounted.2.2
  stage := Function.update helloRefused.stage 0 (.ended (some 0) (some "hello"))

/-- The first process selects the exercise, has it judged, stores that and ends. -/
theorem leads_helloEnded : Leads helloFlock helloProcesses helloRefused helloEnded := by
  -- One evaluation for all that is found out about the run.
  obtain ⟨hopen, hname, hsuccess, hfile, hside, hholder⟩ :
      openFor helloHost helloConfig (some "hello") helloLocked = .ok helloOpened ∧
        helloOpened.2.name = "hello" ∧
        (helloCounted.1.isOk && helloJudged.1.success) = true ∧
        helloHost.look helloConfig.progressPath helloJudged.2 =
          helloHost.look helloConfig.progressPath helloLocked ∧
        helloHost.look (Progress.sidePath helloConfig.progressPath) helloJudged.2 =
          helloHost.look (Progress.sidePath helloConfig.progressPath) helloLocked ∧
        helloFlock.holder helloJudged.2 = helloFlock.holder helloLocked := by
    decide +kernel
  have hspares : helloFlock.Spares helloLocked helloJudged.2 := ⟨hfile, hside, hholder⟩
  obtain ⟨record, -, hholds⟩ := holds_of_load rfl (openFor_eq_ok hopen).1
  have hcounted : Proceeds helloFlock (helloProcesses 0) (.opening helloLock) helloLocked
      (.holding helloLock (checked helloOpened.2 helloJudged.1 (helloCounted.1, helloCounted.2.1)))
      helloCounted.2.2 :=
    ((Moves.selected rfl rfl hopen).proceeds.spared hspares).trans
      (proceeds_of_recordAttempt hholds rfl)
  rw [checked, if_pos hsuccess, hname] at hcounted
  exact leads_of_proceeds (hcounted.move .released)

/-- A run that ends with success beside a session that was refused, and whatever comes after. -/
theorem no_completion_lost_hello :
    Leads helloFlock helloProcesses helloBegun helloEnded ∧
      helloEnded.stage 0 = .ended (some 0) (some "hello") ∧
      helloEnded.stage 1 = .ended (some 1) none ∧
      ∀ w', Leads helloFlock helloProcesses helloEnded w' →
        Completed helloHost helloConfig.progressPath w'.machine "hello" := by
  have hleads := leads_helloRefused.trans leads_helloEnded
  have hside : Progress.sidePath helloConfig.progressPath ≠ helloConfig.progressPath := by
    decide +kernel
  have hshared : Shared helloProcesses helloConfig.lockPath helloConfig.progressPath :=
    ⟨fun _ => rfl, fun _ => rfl⟩
  have hkeeps : helloHost.Keeps helloConfig.progressPath := Cabinet.keeps _ hside
  have hclock : ∀ s, (helloHost.now s).isValid = true := fun _ => rfl
  have hall := no_completion_lost hshared hkeeps hclock (fun _ => rfl) hleads
  obtain ⟨x, hran, -, hx⟩ := hall.2.2.1 0 _ rfl (some "hello") rfl
  cases hran
  exact ⟨hleads, rfl, rfl, hx⟩

end World
end Program
end Trainer
