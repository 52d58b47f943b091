import Mathlib
import Trainer.Proofs.Program.Soundness

/-!
# A command that is not disturbed

The commands of the program are what their steps come to when no other process has its turn: each
command as a whole leads from its beginning to the stage that its ending leaves
(`proceeds_of_command`), and a session goes from message to message (`proceeds_of_update`).  Running
an exercise is taken to spare the progress and its lock.
-/

namespace Trainer
namespace Program

variable {σ : Type} {host : Host σ} {lockFile file : Path} {flock : host.Flock lockFile file}
  {k : Process} {s s' s'' : σ} {stage stage' stage'' : Stage}

/-- A process goes on by its own steps, while the machine changes only where it is spared. -/
inductive Proceeds (flock : host.Flock lockFile file) (k : Process) (stage : Stage) (s : σ) :
    Stage → σ → Prop
  | refl : Proceeds flock k stage s stage s
  | move {stage' stage'' : Stage} {s' s'' : σ} (h : Proceeds flock k stage s stage' s')
      (hmove : Moves flock k stage' s' stage'' s'') : Proceeds flock k stage s stage'' s''
  | spared {stage' : Stage} {s' s'' : σ} (h : Proceeds flock k stage s stage' s')
      (hspares : flock.Spares s' s'') : Proceeds flock k stage s stage' s''

theorem Moves.proceeds (h : Moves flock k stage s stage' s') : Proceeds flock k stage s stage' s' :=
  .move .refl h

theorem Proceeds.trans (h : Proceeds flock k stage s stage' s')
    (h' : Proceeds flock k stage' s' stage'' s'') : Proceeds flock k stage s stage'' s'' := by
  induction h' with
  | refl => exact h
  | move _ hmove ih => exact .move ih hmove
  | spared _ hspares ih => exact .spared ih hspares

/-! ## Saving -/

/-- The steps of a save come to what the save comes to. -/
theorem proceeds_of_runSteps {lock : SessionLock} {steps : List Progress.SaveStep}
    {next : Except Progress.SaveFailure Unit → Rest} {r : Except Progress.SaveFailure Unit}
    (hne : steps ≠ []) (h : Progress.runSteps host steps s = (r, s')) :
    Proceeds flock k (.saving lock steps next) s (.holding lock (next r)) s' := by
  induction steps generalizing s with
  | nil => exact absurd rfl hne
  | cons step rest ih =>
      rcases Progress.runSteps_cons_cases h with ⟨t, hstep, hrest⟩ | ⟨cause, hstep, rfl⟩
      -- The last step ends the save, and any other one leaves the rest of it.
      · cases rest with
        | nil =>
            cases hrest
            exact (Moves.saved hstep).proceeds
        | cons step' rest => exact (Moves.stepped hstep).proceeds.trans (ih (by simp) hrest)
      · exact (Moves.unsaved hstep).proceeds

/-- A plan that is performed at one go is a way of proceeding. -/
theorem proceeds_of_plan {lock : SessionLock} {plan : Plan Rest} {rest : Rest}
    (h : plan.perform (host.progressStore file) s = (rest, s')) :
    Proceeds flock k (.ofPlan lock file plan) s (.holding lock rest) s' := by
  cases plan with
  | done a =>
      cases h
      exact .refl
  | save p next =>
      rcases hsave : Progress.save host file p s with ⟨r, t⟩
      have hend : next r = rest ∧ t = s' := by
        simpa [Plan.perform, Host.progressStore, hsave] using h
      obtain ⟨rfl, rfl⟩ := hend
      exact proceeds_of_runSteps (by simp [Progress.saveSteps]) hsave

/-! ## Commands -/

/-- A message that comes to a session is carried out step by step. -/
theorem proceeds_of_update {lock : SessionLock} {session session' : Session}
    {record : List (String × Bool)} {m : Message} {effects : List Effect}
    (hsession : session.catalog.Holds file record)
    (h : session.update (host.progressStore file) m s = ((session', effects), s')) :
    Proceeds flock k (.holding lock (.watching session)) s
      (.holding lock (.watching session')) s' := by
  obtain ⟨plan, hplan, -⟩ := Session.exists_plan_update hsession m (host.now s)
  refine (Moves.told hplan).proceeds.trans ?_
  rw [hsession.progressFile]
  refine proceeds_of_plan ?_
  have hupdate := hplan σ (host.progressStore file) s rfl
  rw [Plan.perform_map, ← hupdate]
  simp only [h]

/-- An attempt that is counted ends a check. -/
theorem proceeds_of_recordAttempt {lock : SessionLock} {w : Workspace} {e : Exercise} {v : Verdict}
    {record : List (String × Bool)} {r : Except Catalog.Failure Nat} {c : Catalog}
    (hw : w.catalog.Holds file record)
    (h : Catalog.recordAttempt (host.progressStore file) e.name v.success (w.catalog, s) =
      (r, (c, s'))) :
    Proceeds flock k (.checking lock w e) s (.holding lock (checked e v (r, c))) s' := by
  obtain ⟨plan, hplan, -⟩ := Catalog.exists_plan_recordAttempt hw e.name v.success (host.now s)
  refine (Moves.judged hplan).proceeds.trans ?_
  rw [hw.progressFile]
  refine proceeds_of_plan ?_
  have hcount := hplan σ (host.progressStore file) s rfl
  rw [Plan.perform_map, ← hcount]
  simp only [h, Catalog.regroup]

/-- What a process with the lock does next when its command has ended so far. -/
inductive Ending.Keeps (lock : SessionLock) : Ending → Rest → Prop
  | exit {code : Nat} {ran : Option String} : Keeps lock (.exit code) (.leaving code ran)
  | watch {w : Workspace} : Keeps lock (.watch w lock) (.watching (firstSession w))

/-- The stage in which the end of a command leaves its process. -/
inductive Ending.Leaves : Ending → Stage → Prop
  | exit {code : Nat} {ran : Option String} : Leaves (.exit code) (.ended (some code) ran)
  | watch {w : Workspace} {lock : SessionLock} :
      Leaves (.watch w lock) (.holding lock (.watching (firstSession w)))

/-- A check leads from the exercise that was selected to its end. -/
theorem proceeds_of_runOne {lock : SessionLock} {paint : Paint} {w : Workspace} {e : Exercise}
    {record : List (String × Bool)} {printed : Printed} {ending : Ending}
    (hvalidate : ∀ {v : Verdict} {t t' : σ}, w.runner.validate host e t = (v, t') →
      flock.Spares t t')
    (hw : w.catalog.Holds file record)
    (h : runOne host paint w e s = ((printed, ending), s')) :
    ∃ rest, ending.Keeps lock rest ∧
      Proceeds flock k (.checking lock w e) s (.holding lock rest) s' := by
  unfold runOne at h
  rcases hverdict : w.runner.validate host e s with ⟨v, t⟩
  rcases hcount : Catalog.recordAttempt (host.progressStore file) e.name v.success (w.catalog, t)
    with ⟨r, c, t'⟩
  have hpath : Proceeds flock k (.checking lock w e) s (.holding lock (checked e v (r, c))) t' :=
    (Proceeds.refl.spared (hvalidate hverdict)).trans (proceeds_of_recordAttempt hw hcount)
  simp only [hverdict, hw.progressFile, hcount] at h
  -- Only a success whose attempt could be counted ends with 0.
  have hend : ending = .exit (if r.isOk && v.success then 0 else 1) ∧ t' = s' := by
    cases r with
    | error f =>
        cases h
        exact ⟨rfl, rfl⟩
    | ok attempts =>
        cases hsuccess : v.success with
        | false =>
            simp only [hsuccess] at h
            cases h
            exact ⟨rfl, rfl⟩
        | true =>
            simp only [hsuccess] at h
            cases h
            exact ⟨rfl, rfl⟩
  obtain ⟨rfl, rfl⟩ := hend
  exact ⟨checked e v (r, c), .exit, hpath⟩

/-- What a command does with the lock, it does between taking it and giving it back. -/
theorem proceeds_of_locked {paint : Paint} {step : SessionLock → Step σ} {printed : Printed}
    {ending : Ending} (hstores : k.Stores)
    (hstep : ∀ {lock : SessionLock} {printed : Printed} {ending : Ending} {t t' : σ},
      step lock t = ((printed, ending), t') → ∃ rest, ending.Keeps lock rest ∧
        Proceeds flock k (.opening lock) t (.holding lock rest) t')
    (h : locked host paint k.config step s = ((printed, ending), s')) :
    ∃ stage, ending.Leaves stage ∧ Proceeds flock k .begun s stage s' := by
  unfold locked at h
  rcases hlock : SessionLock.acquire host k.config.lockPath s with ⟨f | lock, t⟩
  · rw [hlock] at h
    cases h
    exact ⟨_, .exit, (Moves.refused hstores hlock).proceeds⟩
  · have hlocked : Proceeds flock k .begun s (.opening lock) t :=
      (Moves.locked hstores hlock).proceeds
    rcases hdone : step lock t with ⟨⟨printed', ending'⟩, t'⟩
    simp only [hlock, hdone] at h
    obtain ⟨rest, hkept, hpath⟩ := hstep hdone
    cases hkept with
    | exit =>
        cases h
        exact ⟨_, .exit, (hlocked.trans hpath).move .released⟩
    | watch =>
        cases h
        exact ⟨_, .watch, hlocked.trans hpath⟩

/-- The command of a process as a whole. -/
def Process.perform (host : Host σ) (paint : Paint) (k : Process) : Step σ :=
  match k.command with
  | .watch => watch host paint k.config
  | .run name => run host paint k.config name
  | .hint name level => hint host paint k.config name level
  | .list => list host paint k.config

/-- A command is carried out when its configuration has been read. -/
theorem execute_eq_perform {paint : Paint} {root : String} {command : Command} {config : Config}
    (h : prepare host root s = (.ok config, s')) :
    execute host paint root command s = Process.perform host paint ⟨config, command⟩ s' := by
  unfold execute Process.perform
  rw [h]
  cases command <;> rfl

/-- The command that runs an exercise proceeds by moves of a process. -/
theorem proceeds_of_run {paint : Paint} {name : Option String} {printed : Printed}
    {ending : Ending} (hcommand : k.command = .run name) (hprogress : k.config.progressPath = file)
    (hvalidate : ∀ {r : Runner} {e : Exercise} {v : Verdict} {t t' : σ},
      r.validate host e t = (v, t') → flock.Spares t t')
    (h : run host paint k.config name s = ((printed, ending), s')) :
    ∃ stage, ending.Leaves stage ∧ Proceeds flock k .begun s stage s' := by
  refine proceeds_of_locked (.inr ⟨name, hcommand⟩) ?_ h
  intro lock printed ending t t' hstep
  rcases hopen : openFor host k.config name t with text | ⟨w, e⟩
  · have hinner := hopen
    rw [openFor] at hinner
    simp only [hinner] at hstep
    cases hstep
    exact ⟨_, .exit, (Moves.unselected hcommand hopen).proceeds⟩
  · obtain ⟨record, -, hholds⟩ := holds_of_load hprogress (openFor_eq_ok hopen).1
    rcases hone : runOne host paint w e t with ⟨⟨printed', ending'⟩, t''⟩
    have hinner := hopen
    rw [openFor] at hinner
    simp only [hinner, hone] at hstep
    cases hstep
    obtain ⟨rest, hkept, hpath⟩ := proceeds_of_runOne hvalidate hholds hone
    exact ⟨rest, hkept, (Moves.selected hcommand rfl hopen).proceeds.trans hpath⟩

/-- The command that watches proceeds by moves of a process. -/
theorem proceeds_of_watch {paint : Paint} {printed : Printed} {ending : Ending}
    (hcommand : k.command = .watch) (h : watch host paint k.config s = ((printed, ending), s')) :
    ∃ stage, ending.Leaves stage ∧ Proceeds flock k .begun s stage s' := by
  refine proceeds_of_locked (.inl hcommand) ?_ h
  intro lock printed ending t t' hstep
  cases hload : Workspace.load host k.config t with
  | error text =>
      simp only [hload] at hstep
      cases hstep
      exact ⟨_, .exit, (Moves.unstarted hcommand hload).proceeds⟩
  | ok w =>
      simp only [hload] at hstep
      cases hstep
      exact ⟨_, .watch, (Moves.started hcommand rfl hload).proceeds⟩

/-- A command as a whole leads where its steps lead. -/
theorem proceeds_of_command {paint : Paint} {printed : Printed} {ending : Ending}
    (hprogress : k.config.progressPath = file)
    (hvalidate : ∀ {r : Runner} {e : Exercise} {v : Verdict} {t t' : σ},
      r.validate host e t = (v, t') → flock.Spares t t')
    (h : k.perform host paint s = ((printed, ending), s')) :
    ∃ stage, ending.Leaves stage ∧ Proceeds flock k .begun s stage s' := by
  cases hcommand : k.command with
  | watch =>
      simp only [Process.perform, hcommand] at h
      exact proceeds_of_watch hcommand h
  | run name =>
      simp only [Process.perform, hcommand] at h
      exact proceeds_of_run hcommand hprogress hvalidate h
  | hint name level =>
      simp only [Process.perform, hcommand] at h
      obtain ⟨-, code, rfl⟩ := of_hint h
      exact ⟨_, .exit, (Moves.hinted hcommand h).proceeds⟩
  | list =>
      simp only [Process.perform, hcommand] at h
      obtain ⟨-, code, rfl⟩ := of_list h
      exact ⟨_, .exit, (Moves.listed hcommand h).proceeds⟩

end Program
end Trainer
