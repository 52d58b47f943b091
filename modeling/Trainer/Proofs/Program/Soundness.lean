import Mathlib
import Trainer.Proofs.Program.Process

/-!
# What the stages of a process rely on

A process that has the lock works on what it has read before, while others have their turns.
`Stage.Sound` says how what it has in memory fits the stored record of completions, and what a
process that has ended may say of it.

* Every step leads from a sound stage to a sound stage (`Moves.sound`), and takes no completion out
  of the stored record (`Moves.grows`).
* A process without the lock leaves the progress and the file beside it as they are
  (`Moves.quiet`), so the stages of others stay sound when it has its turn (`Stage.Sound.congr`);
  a stage without the lock stays sound whatever completions are added
  (`Stage.Sound.of_unlocked`).
* A step takes the lock only when nobody has it (`Moves.turn`).
-/

namespace Trainer
namespace Program

open Progress (Recorded Completed Left)

variable {σ : Type} {host : Host σ} {lockFile file : Path} {flock : host.Flock lockFile file}
  {k : Process} {s s' : σ} {stage stage' : Stage} {record : List (String × Bool)}

/-! ## Sound stages -/

/-- What a process does next fits a record of completions. -/
def Rest.Fits (k : Process) (file : Path) (record : List (String × Bool)) : Rest → Prop
  | .watching session => k.command = .watch ∧ session.catalog.Holds file record
  | .leaving code ran => code = 0 → k.Ran ran fun x => record.lookup x = some true

/-- What a process has in memory fits the stored record of completions. -/
inductive Stage.Sound (host : Host σ) (k : Process) (file : Path) (s : σ) : Stage → Prop
  | begun : Sound host k file s .begun
  | opening {lock : SessionLock} : Sound host k file s (.opening lock)
  | checking {lock : SessionLock} {w : Workspace} {e : Exercise} {record : List (String × Bool)}
      (stored : Recorded host file s record) (holds : w.catalog.Holds file record)
      (asked : ∀ name, k.command = .run name → ∀ n ∈ name, e.name = n) :
      Sound host k file s (.checking lock w e)
  | watching {lock : SessionLock} {session : Session} {record : List (String × Bool)}
      (watch : k.command = .watch) (stored : Recorded host file s record)
      (holds : session.catalog.Holds file record) :
      Sound host k file s (.holding lock (.watching session))
  | leaving {lock : SessionLock} {code : Nat} {ran : Option String}
      (done : code = 0 → k.Ran ran (Completed host file s)) :
      Sound host k file s (.holding lock (.leaving code ran))
  /-- A save is going on: what it leads to fits what is stored then. -/
  | saving {lock : SessionLock} {steps : List Progress.SaveStep}
      {next : Except Progress.SaveFailure Unit → Rest} {record : List (String × Bool)}
      {p : Progress} (stored : Recorded host file s record)
      (ordered : Progress.Ordered p.exercises) (valid : ∀ t ∈ p.lastUpdated, t.isValid = true)
      (grows : ∀ n, record.lookup n = some true → p.exercises.lookup n = some true)
      (left : Left host file p s steps) (success : (next (.ok ())).Fits k file p.exercises)
      (failure : ∀ cause, (next (.error cause)).Fits k file record) :
      Sound host k file s (.saving lock steps next)
  | ended {code : Option Nat} {ran : Option String}
      (done : code = some 0 → k.Ran ran (Completed host file s)) :
      Sound host k file s (.ended code ran)

theorem Process.Ran.mono {ran : Option String} {done done' : String → Prop} (h : k.Ran ran done)
    (hdone : ∀ x, done x → done' x) : k.Ran ran done' := by
  intro name hcommand
  obtain ⟨x, hran, hasked, hx⟩ := h name hcommand
  exact ⟨x, hran, hasked, hdone x hx⟩

/-- A stage stays sound when the progress and the file beside it are left alone. -/
theorem Stage.Sound.congr (h : stage.Sound host k file s)
    (hfile : host.look file s' = host.look file s)
    (hside : host.look (Progress.sidePath file) s' = host.look (Progress.sidePath file) s) :
    stage.Sound host k file s' := by
  cases h with
  | begun => exact .begun
  | opening => exact .opening
  | checking stored holds asked => exact .checking (stored.congr hfile) holds asked
  | watching watch stored holds => exact .watching watch (stored.congr hfile) holds
  | leaving done => exact .leaving fun hcode => (done hcode).mono fun _ hx => hx.congr hfile
  | saving stored ordered valid grows left success failure =>
      exact .saving (stored.congr hfile) ordered valid grows (left.congr hside) success failure
  | ended done => exact .ended fun hcode => (done hcode).mono fun _ hx => hx.congr hfile

/-- A stage without the lock stays sound when no completion is lost. -/
theorem Stage.Sound.of_unlocked (h : stage.Sound host k file s) (hlock : stage.lock? = none)
    (hgrows : ∀ n, Completed host file s n → Completed host file s' n) :
    stage.Sound host k file s' := by
  cases h with
  | begun => exact .begun
  | ended done => exact .ended fun hcode => (done hcode).mono hgrows
  | opening => cases hlock
  | checking => cases hlock
  | watching => cases hlock
  | leaving => cases hlock
  | saving => cases hlock

/-- What is left to do fits the file as long as the file has the record it was planned for. -/
theorem Rest.Fits.sound {rest : Rest} {lock : SessionLock} (h : rest.Fits k file record)
    (hstored : Recorded host file s record) :
    (Stage.holding lock rest).Sound host k file s := by
  cases rest with
  | watching session => exact .watching h.1 hstored h.2
  | leaving code ran =>
      exact .leaving fun hcode => (h hcode).mono fun x hx => ⟨record, hstored, hx⟩

/-! ## Plans lead to sound stages -/

/-- A plan that keeps the stored record leads to a sound stage. -/
theorem sound_ofPlan {plan : Plan Rest} {now : Timestamp} (lock : SessionLock)
    (hkeeps : plan.Keeps (Rest.Fits k file) record now) (hvalid : now.isValid = true)
    (hstored : Recorded host file s record) :
    (Stage.ofPlan lock file plan).Sound host k file s := by
  cases hkeeps with
  | done same => exact same.sound hstored
  | @save p next ordered time grows stored refused =>
      refine .saving hstored ordered (fun t ht => ?_) grows (Progress.left_saveSteps ..) stored
        refused
      rw [time] at ht
      cases ht
      exact hvalid

/-- A successful check whose attempt is counted has marked its exercise completed. -/
theorem fits_checked {w : Workspace} {e : Exercise} {v : Verdict} {now : Timestamp}
    {plan : Plan (Except Catalog.Failure Nat × Catalog)}
    {x : Except Catalog.Failure Nat × Catalog}
    (hplan : plan.Describes now fun _ store t =>
      Catalog.regroup (Catalog.recordAttempt store e.name v.success (w.catalog, t)))
    (hends : plan.Ends x) (hfits : Catalog.Fits file record x)
    (hasked : ∀ name, k.command = .run name → ∀ n ∈ name, e.name = n) :
    (checked e v x).Fits k file record := by
  intro hcode name hcommand
  refine ⟨e.name, rfl, hasked name hcommand, ?_⟩
  obtain ⟨answer, c⟩ := x
  -- The code is 0 only for a success that was counted without a failure.
  have hboth : answer.isOk = true ∧ v.success = true := by
    rw [← Bool.and_eq_true]
    by_contra hno
    rw [if_neg hno] at hcode
    exact absurd hcode (by simp)
  -- The ending of the plan is an ending of the count, for some store.
  obtain ⟨store, noted, hchange⟩ := hplan.exists_of_ends hends
  rcases hcount : Catalog.recordAttempt store e.name v.success (w.catalog, []) with ⟨r, c', t⟩
  simp only [hcount, Catalog.regroup, Prod.mk.injEq] at hchange
  obtain ⟨⟨rfl, rfl⟩, -⟩ := hchange
  have hlookup := (Catalog.counted_of_eq hcount).lookup e.name
  rw [if_pos ⟨⟨hboth.2, hboth.1⟩, rfl⟩] at hlookup
  rw [← hfits.record]
  exact hlookup

/-- The workspace that is opened holds the stored record. -/
theorem holds_of_load {config : Config} {w : Workspace} (hconfig : config.progressPath = file)
    (h : Workspace.load host config s = .ok w) :
    ∃ record, Recorded host file s record ∧ w.catalog.Holds file record := by
  unfold Workspace.load at h
  split at h
  · cases h
  · split at h
    · cases h
    · rename_i catalog hload
      cases h
      obtain ⟨hprogress, hfile, -⟩ := Catalog.exists_of_load hload
      have hpath : (CatalogPaths.ofConfig config).progressFile = file := hconfig
      rw [hpath] at hprogress hfile
      exact ⟨_, ⟨_, hprogress, rfl⟩, Catalog.agrees_of_load hload, hfile, rfl⟩

theorem openFor_eq_ok {config : Config} {name : Option String} {w : Workspace} {e : Exercise}
    (h : openFor host config name s = .ok (w, e)) :
    Workspace.load host config s = .ok w ∧ w.select name = .ok e := by
  unfold openFor at h
  cases hload : Workspace.load host config s with
  | error text =>
      rw [hload] at h
      cases h
  | ok w' =>
      cases hselect : w'.select name with
      | error text =>
          simp [Except.bind, Except.map, hload, hselect] at h
      | ok e' =>
          simp only [Except.bind, Except.map, hload, hselect, Except.ok.injEq, Prod.mk.injEq] at h
          obtain ⟨rfl, rfl⟩ := h
          exact ⟨rfl, hselect⟩

/-- An exercise that is selected by its name has that name. -/
theorem name_of_select {w : Workspace} {name : Option String} {e : Exercise}
    (h : w.select name = .ok e) : ∀ n ∈ name, e.name = n := by
  rintro n rfl
  simp only [Workspace.select] at h
  split at h
  · rename_i hfind
    cases h
    simpa using List.find?_some hfind
  · cases h

/-! ## What a step does to the machine -/

/-- The list leaves the machine as it is. -/
theorem of_list {paint : Paint} {config : Config} {printed : Printed} {ending : Ending}
    (h : list host paint config s = ((printed, ending), s')) :
    s' = s ∧ ∃ code, ending = .exit code := by
  unfold list at h
  split at h
  · cases h
    exact ⟨rfl, 1, rfl⟩
  · cases h
    exact ⟨rfl, 0, rfl⟩

/-- A hint leaves the machine as it is. -/
theorem of_hint {paint : Paint} {config : Config} {name : Option String} {level : Option Nat}
    {printed : Printed} {ending : Ending}
    (h : hint host paint config name level s = ((printed, ending), s')) :
    s' = s ∧ ∃ code, ending = .exit code := by
  unfold hint at h
  split at h
  · cases h
    exact ⟨rfl, 1, rfl⟩
  · split at h
    · cases h
      exact ⟨rfl, 1, rfl⟩
    · cases h
      exact ⟨rfl, 0, rfl⟩

theorem lock_of_acquire {path : Path} {lock : SessionLock}
    (h : SessionLock.acquire host path s = (.ok lock, s')) :
    host.lock path s = (.ok lock.handle, s') := by
  rw [SessionLock.acquire, Act.bind_apply] at h
  split at h
  · rename_i handle t hlock
    rcases Progress.orElseFail_cases hlock with ⟨_, hgranted, heq⟩ | ⟨_, -, hno⟩
    · cases heq
      cases h
      exact hgranted
    · cases hno
  · cases h

theorem lock_of_refused {path : Path} {f : SessionLock.Failure}
    (h : SessionLock.acquire host path s = (.error f, s')) :
    ∃ cause, host.lock path s = (.error cause, s') := by
  rw [SessionLock.acquire, Act.bind_apply] at h
  split at h
  · cases h
  · rename_i cause t hlock
    rcases Progress.orElseFail_cases hlock with ⟨_, -, hno⟩ | ⟨_, hrefused, -⟩
    · cases hno
    · cases h
      exact ⟨_, hrefused⟩

/-- A process without the lock leaves the progress and the file beside it as they are. -/
theorem Moves.quiet (h : Moves flock k stage s stage' s') (hlock : stage.lock? = none)
    (hpath : k.config.lockPath = lockFile) {path : Path}
    (hmem : path ∈ [file, Progress.sidePath file]) : host.look path s' = host.look path s := by
  cases h with
  | locked hstores hacquire =>
      rw [hpath] at hacquire
      exact flock.look_lock hmem (lock_of_acquire hacquire)
  | refused hstores hacquire =>
      rw [hpath] at hacquire
      obtain ⟨cause, hrefused⟩ := lock_of_refused hacquire
      exact flock.look_lock hmem hrefused
  | listed hcommand hlist =>
      cases (of_list hlist).1
      rfl
  | hinted hcommand hhint =>
      cases (of_hint hhint).1
      rfl
  | died => rfl
  | killed hheld =>
      rw [hlock] at hheld
      cases hheld
  | selected => cases hlock
  | unselected => cases hlock
  | started => cases hlock
  | unstarted => cases hlock
  | judged => cases hlock
  | told => cases hlock
  | closed => cases hlock
  | stepped => cases hlock
  | saved => cases hlock
  | unsaved => cases hlock
  | released => cases hlock

/-- A process that stores nothing leaves the machine as it is. -/
theorem Moves.eq_of_not_stores (h : Moves flock k stage s stage' s') (hno : ¬ k.Stores)
    (hlock : stage.lock? = none) : s' = s := by
  cases h with
  | locked hstores => exact absurd hstores hno
  | refused hstores => exact absurd hstores hno
  | listed hcommand hlist => exact (of_list hlist).1
  | hinted hcommand hhint => exact (of_hint hhint).1
  | died => rfl
  | killed hheld =>
      rw [hlock] at hheld
      cases hheld
  | selected => rfl
  | unselected => rfl
  | started => rfl
  | unstarted => rfl
  | judged => rfl
  | told => rfl
  | closed => rfl
  | stepped => cases hlock
  | saved => cases hlock
  | unsaved => cases hlock
  | released => cases hlock

/--
A step leaves the stored progress as it is, or it ends a save of more completions than were stored.
-/
theorem Moves.look (h : Moves flock k stage s stage' s') (hsound : stage.Sound host k file s)
    (hpath : k.config.lockPath = lockFile) (hkeeps : host.Keeps file) :
    host.look file s' = host.look file s ∨
      ∃ record record', Recorded host file s record ∧ Recorded host file s' record' ∧
        ∀ n, record.lookup n = some true → record'.lookup n = some true := by
  have hquiet (hlock : stage.lock? = none) : host.look file s' = host.look file s :=
    h.quiet hlock hpath (by simp)
  cases h with
  | stepped hrun =>
      cases hsound with
      | saving stored ordered valid grows left => exact .inl (left.run_next hkeeps hrun).1
  | unsaved hrun =>
      cases hsound with
      | saving stored ordered valid grows left => exact .inl (left.run_error hkeeps hrun)
  -- Only the last step of a save changes what is stored.
  | saved hrun =>
      cases hsound with
      | @saving _ _ _ record p stored ordered valid grows left =>
          have hlook := left.run_last hkeeps hrun
          exact .inr ⟨record, _, stored, ⟨p, Progress.load_of_look ordered valid hlook, rfl⟩, grows⟩
  | released => exact .inl (flock.look_unlock (by simp))
  | killed hheld hlook => exact .inl ((flock.look_unlock (by simp)).trans hlook)
  | locked => exact .inl (hquiet rfl)
  | refused => exact .inl (hquiet rfl)
  | listed => exact .inl (hquiet rfl)
  | hinted => exact .inl (hquiet rfl)
  | died => exact .inl rfl
  | selected => exact .inl rfl
  | unselected => exact .inl rfl
  | started => exact .inl rfl
  | unstarted => exact .inl rfl
  | judged => exact .inl rfl
  | told => exact .inl rfl
  | closed => exact .inl rfl

/-- No step takes a completion out of the stored record. -/
theorem Moves.grows (h : Moves flock k stage s stage' s') (hsound : stage.Sound host k file s)
    (hpath : k.config.lockPath = lockFile) (hkeeps : host.Keeps file) {n : String}
    (hn : Completed host file s n) : Completed host file s' n := by
  rcases h.look hsound hpath hkeeps with hlook | ⟨record, record', hstored, hstored', hgrows⟩
  · exact hn.congr hlook
  · exact hn.grows hstored hstored' hgrows

/-- Every step leads from a sound stage to a sound stage. -/
theorem Moves.sound (h : Moves flock k stage s stage' s') (hsound : stage.Sound host k file s)
    (hprogress : k.config.progressPath = file) (hkeeps : host.Keeps file)
    (hclock : ∀ s, (host.now s).isValid = true) : stage'.Sound host k file s' := by
  cases h with
  | locked => exact .opening
  | refused => exact .ended fun hcode => absurd hcode (by simp)
  | listed hcommand =>
      refine .ended fun _ name hrun => ?_
      rw [hcommand] at hrun
      cases hrun
  | hinted hcommand =>
      refine .ended fun _ name hrun => ?_
      rw [hcommand] at hrun
      cases hrun
  | selected hcommand hlook hopen =>
      obtain ⟨hload, hselect⟩ := openFor_eq_ok hopen
      -- The progress was read when it was as it is now.
      obtain ⟨record, hstored, hholds⟩ := holds_of_load hprogress hload
      refine .checking (hstored.congr hlook.symm) hholds fun name hrun => ?_
      rw [hcommand] at hrun
      cases hrun
      exact name_of_select hselect
  | unselected => exact .leaving fun hcode => absurd hcode (by simp)
  | started hcommand hlook hload =>
      obtain ⟨record, hstored, hholds⟩ := holds_of_load hprogress hload
      exact .watching hcommand (hstored.congr hlook.symm) hholds
  | unstarted => exact .leaving fun hcode => absurd hcode (by simp)
  | @judged lock w e v plan _ hplan =>
      cases hsound with
      | checking stored holds asked =>
          -- There is one plan only, and it is known to keep the record.
          obtain ⟨plan', hplan', hkept⟩ :=
            Catalog.exists_plan_recordAttempt holds e.name v.success (host.now s)
          rw [hplan.unique hplan', holds.progressFile]
          exact sound_ofPlan lock (hkept.map fun _ _ hends hfits =>
            fits_checked hplan' hends hfits asked) (hclock s) stored
  | @told lock session m plan _ hplan =>
      cases hsound with
      | watching watch stored holds =>
          obtain ⟨plan', hplan', hkept⟩ := Session.exists_plan_update holds m (host.now s)
          rw [hplan.unique hplan', holds.progressFile]
          exact sound_ofPlan lock (hkept.map fun _ _ _ hfits => ⟨watch, hfits⟩) (hclock s) stored
  | closed =>
      cases hsound with
      | watching watch =>
          refine .leaving fun _ name hrun => ?_
          rw [watch] at hrun
          cases hrun
  | stepped hrun =>
      cases hsound with
      | saving stored ordered valid grows left success failure =>
          obtain ⟨hlook, hleft⟩ := left.run_next hkeeps hrun
          exact .saving (stored.congr hlook) ordered valid grows hleft success failure
  | saved hrun =>
      cases hsound with
      | saving stored ordered valid grows left success failure =>
          have hlook := left.run_last hkeeps hrun
          exact success.sound ⟨_, Progress.load_of_look ordered valid hlook, rfl⟩
  | unsaved hrun =>
      cases hsound with
      | saving stored ordered valid grows left success failure =>
          exact (failure _).sound (stored.congr (left.run_error hkeeps hrun))
  | released =>
      cases hsound with
      | leaving done =>
          -- What the process says when it ends, it knew before it gave the lock back.
          refine .ended fun hcode => (done (Option.some.inj hcode)).mono fun x hx => ?_
          exact hx.congr (flock.look_unlock (by simp))
  | died => exact .ended fun hcode => absurd hcode (by simp)
  | killed => exact .ended fun hcode => absurd hcode (by simp)

/-! ## What a step does to the lock -/

/-- A step leaves the lock alone, takes it when nobody has it, or gives it back. -/
inductive Turn (flock : host.Flock lockFile file) (k : Process) (stage : Stage) (s : σ)
    (stage' : Stage) (s' : σ) : Prop
  | kept (lock : stage'.lock? = stage.lock?) (holder : flock.holder s' = flock.holder s)
  | taken {lock : SessionLock} (stores : k.Stores) (free : flock.holder s = none)
      (before : stage.lock? = none) (after : stage'.lock? = some lock)
      (holder : flock.holder s' = some lock.handle)
  | given {lock : SessionLock} (before : stage.lock? = some lock) (after : stage'.lock? = none)
      (holder : flock.holder s' = none)

/-- A move of a process leaves the lock as it is, takes it, or gives it back. -/
theorem Moves.turn (h : Moves flock k stage s stage' s') (hsound : stage.Sound host k file s)
    (hpath : k.config.lockPath = lockFile)
    (hheld : ∀ lock, stage.lock? = some lock → flock.holder s = some lock.handle) :
    Turn flock k stage s stage' s' := by
  cases h with
  | locked hstores hacquire =>
      rw [hpath] at hacquire
      obtain ⟨hfree, htaken⟩ := flock.granted (lock_of_acquire hacquire)
      exact .taken hstores hfree rfl rfl htaken
  | refused hstores hacquire =>
      rw [hpath] at hacquire
      obtain ⟨cause, hrefused⟩ := lock_of_refused hacquire
      exact .kept rfl (flock.refused hrefused)
  | listed hcommand hlist =>
      cases (of_list hlist).1
      exact .kept rfl rfl
  | hinted hcommand hhint =>
      cases (of_hint hhint).1
      exact .kept rfl rfl
  | judged => exact .kept (Stage.lock?_ofPlan _ _ _) rfl
  | told => exact .kept (Stage.lock?_ofPlan _ _ _) rfl
  | stepped hrun =>
      cases hsound with
      | saving stored ordered valid grows left => exact .kept rfl (left.holder_run flock hrun)
  | saved hrun =>
      cases hsound with
      | saving stored ordered valid grows left => exact .kept rfl (left.holder_run flock hrun)
  | unsaved hrun =>
      cases hsound with
      | saving stored ordered valid grows left => exact .kept rfl (left.holder_run flock hrun)
  | released => exact .given rfl rfl (flock.freed (hheld _ rfl))
  | killed hlock _ hholder =>
      exact .given hlock rfl (flock.freed (hholder.trans (hheld _ hlock)))
  | died => exact .kept rfl rfl
  | selected => exact .kept rfl rfl
  | unselected => exact .kept rfl rfl
  | started => exact .kept rfl rfl
  | unstarted => exact .kept rfl rfl
  | closed => exact .kept rfl rfl

end Program
end Trainer
