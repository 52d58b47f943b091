import Mathlib
import Trainer.Proofs.Catalog.Attempts
import Trainer.Proofs.Catalog.Pointer
import Trainer.Proofs.Program.Interleaving
import Trainer.Proofs.Program.Shield

/-!
# Running one exercise is a transaction

There are many ways for `Program.start` to give up when it is to run an exercise: the project has no
usable configuration, its places cannot be made, somebody else has the lock, something cannot be
loaded, the exercise is unknown, the check of it fails, or its completion cannot be stored.
`run_transacts` says that all of them end with code 1 and leave the bytes of the progress file
alone, and that there is one way to code 0, on which the file gets the completion and nothing else.

## The argument

* `Reaches` is the way to the check of an exercise.  All of it is read off the machine, so there is
  one such exercise at most (`Reaches.unique`).
* The endings of each part are listed once: `Readied` for what comes before the lock, `Concluded`
  for the check and what is stored after it, and `Outcome` for the whole.
* A success that is counted is stored unless it was before, and what is in memory then is what the
  file says (`Advances`); so what is said in the end, which is read off memory, is true of the file
  (`Advances.announces`).

A toolchain may bring a file of its own, and nothing keeps its name from being that of the progress.
Then a run that fails may still leave this file in the place of progress that was not there before
(`run_leaves_scaffold`), so the law asks for a check that is `Runner.Harmless`.
-/

namespace Trainer
namespace Program

open Progress (Completed)

variable {σ β : Type} {host : Host σ} {paint : Paint} {root : String} {name : Option String}
  {s s' t : σ}

/-! ## Getting to the exercise -/

/-- The configuration of the project at a root. -/
def Configured (host : Host σ) (root : String) (s : σ) (c : Config) : Prop :=
  ∃ path, host.canonical ⟨root⟩ s = .ok path ∧ Config.load host path s = .ok c

/-- The project is configured, and its state directory and its log are there on a machine `t`. -/
structure Ready (host : Host σ) (root : String) (s : σ) (c : Config) (t : σ) : Prop where
  configured : Configured host root s c
  opened : ∃ s₁, c.ensureStateDir host s = (.ok c.statePath, s₁) ∧
    host.openLog c.logPath s₁ = (.ok (), t)

/--
A run gets as far as checking an exercise `e` of a workspace `w`, on a machine `t`: the project is
ready, the lock is taken, rules and catalog are loaded, and `e` is found.
-/
structure Reaches (host : Host σ) (root : String) (name : Option String) (s : σ) (w : Workspace)
    (e : Exercise) (t : σ) : Prop where
  locked : ∃ s₁ lock, Ready host root s w.config s₁ ∧
    SessionLock.acquire host w.config.lockPath s₁ = (.ok lock, t)
  /-- All rules can be used. -/
  checks : CheckTable.ofEntries w.config.staticChecks = .ok w.runner.checks
  runner : w.runner = Runner.ofConfig w.config w.runner.checks
  /-- Exercises and progress are loaded while the lock is held. -/
  catalog : Catalog.load host (CatalogPaths.ofConfig w.config) t = .ok w.catalog
  selected : w.select name = .ok e

theorem Configured.unique {c c' : Config} (h : Configured host root s c)
    (h' : Configured host root s c') : c = c' := by
  obtain ⟨path, hpath, hload⟩ := h
  obtain ⟨path', hpath', hload'⟩ := h'
  rw [hpath, Except.ok.injEq] at hpath'
  subst hpath'
  rw [hload, Except.ok.injEq] at hload'
  exact hload'

/-- Loading a workspace takes the checks and then the catalog, and nothing else. -/
theorem load_eq_ok_iff {c : Config} {w : Workspace} : Workspace.load host c s = .ok w ↔
    w.config = c ∧ CheckTable.ofEntries c.staticChecks = .ok w.runner.checks ∧
      w.runner = Runner.ofConfig c w.runner.checks ∧
      Catalog.load host (CatalogPaths.ofConfig c) s = .ok w.catalog := by
  unfold Workspace.load
  constructor
  · intro h
    split at h
    · cases h
    · rename_i hchecks
      split at h
      · cases h
      · rename_i hcatalog
        cases h
        exact ⟨rfl, hchecks, rfl, hcatalog⟩
  · obtain ⟨config, catalog, runner⟩ := w
    rintro ⟨rfl, hchecks, hrunner, hcatalog⟩
    simp only at hchecks hrunner hcatalog
    simp only [hchecks, hcatalog, ← hrunner]

theorem Ready.unique {c c' : Config} {t' : σ} (h : Ready host root s c t)
    (h' : Ready host root s c' t') : c = c' ∧ t = t' := by
  obtain rfl := h.configured.unique h'.configured
  obtain ⟨s₁, hdirs, hlog⟩ := h.opened
  obtain ⟨s₁', hdirs', hlog'⟩ := h'.opened
  obtain ⟨-, rfl⟩ := Prod.mk.inj (hdirs.symm.trans hdirs')
  exact ⟨rfl, (Prod.mk.inj (hlog.symm.trans hlog')).2⟩

/-- On the way to an exercise the lock is taken as soon as the project is ready. -/
theorem Reaches.acquires {w : Workspace} {e : Exercise} {c : Config} {s₁ : σ}
    (h : Reaches host root name s w e t) (hready : Ready host root s c s₁) :
    w.config = c ∧ ∃ lock, SessionLock.acquire host c.lockPath s₁ = (.ok lock, t) := by
  obtain ⟨s₁', lock, hready', hlock⟩ := h.locked
  obtain ⟨rfl, rfl⟩ := hready'.unique hready
  exact ⟨rfl, lock, hlock⟩

/-- A run gets to one exercise at most. -/
theorem Reaches.unique {w w' : Workspace} {e e' : Exercise} {t' : σ}
    (h : Reaches host root name s w e t) (h' : Reaches host root name s w' e' t') :
    w = w' ∧ e = e' ∧ t = t' := by
  obtain ⟨s₁, lock, hready, hlock⟩ := h.locked
  obtain ⟨hconfig, lock', hlock'⟩ := h'.acquires hready
  obtain ⟨-, rfl⟩ := Prod.mk.inj (hlock.symm.trans hlock')
  -- Both have the lock on the same machine, and so they load and select the same.
  have hload := load_eq_ok_iff.2 ⟨rfl, h.checks, h.runner, h.catalog⟩
  have hload' := load_eq_ok_iff.2 ⟨rfl, h'.checks, h'.runner, h'.catalog⟩
  rw [hconfig, hload, Except.ok.injEq] at hload'
  subst hload'
  have hselect := h'.selected
  rw [h.selected, Except.ok.injEq] at hselect
  exact ⟨rfl, hselect, rfl⟩

theorem Reaches.configured {w : Workspace} {e : Exercise} (h : Reaches host root name s w e t) :
    Configured host root s w.config := by
  obtain ⟨s₁, lock, hready, -⟩ := h.locked
  exact hready.configured

theorem Reaches.mem {w : Workspace} {e : Exercise} (h : Reaches host root name s w e t) :
    e ∈ w.catalog.exercises := by
  have hselect := h.selected
  unfold Workspace.select at hselect
  split at hselect
  · split at hselect
    · rename_i hfind
      cases hselect
      exact List.mem_of_find?_eq_some hfind
    · cases hselect
  · split at hselect
    · rename_i hget
      cases hselect
      exact List.mem_of_getElem? hget
    · cases hselect

/-! ## Getting ready -/

/-- The endings of `prepare`. -/
inductive Readied (host : Host σ) (root : String) (s : σ) : Except String Config → σ → Prop where
  | unconfigured {text : String} : (∀ c, ¬ Configured host root s c) →
      Readied host root s (.error text) s
  | unmade {c : Config} {f : Config.DirFailure} {text : String} {s' : σ} :
      Configured host root s c → c.ensureStateDir host s = (.error f, s') →
      Readied host root s (.error text) s'
  | unlogged {c : Config} {cause : IoError} {text : String} {s₁ s' : σ} :
      Configured host root s c → c.ensureStateDir host s = (.ok c.statePath, s₁) →
      host.openLog c.logPath s₁ = (.error cause, s') → Readied host root s (.error text) s'
  | ready {c : Config} {s' : σ} : Ready host root s c s' → Readied host root s (.ok c) s'

theorem eq_statePath_of_ensureStateDir {c : Config} {p : Path}
    (h : c.ensureStateDir host s = (.ok p, s')) : p = c.statePath := by
  unfold Config.ensureStateDir at h
  rw [Act.bind_apply] at h
  split at h
  · rw [Act.bind_apply] at h
    split at h
    · cases h
      rfl
    · cases h
  · cases h

/-- Preparing a directory comes to one of the cases of `Readied`. -/
theorem readied_of_eq {r : Except String Config} (h : prepare host root s = (r, s')) :
    Readied host root s r s' := by
  -- The configuration is read off the machine as it is; only the places change it.
  unfold prepare at h
  rw [Act.bind_apply] at h
  cases hroot : host.canonical ⟨root⟩ s with
  | error cause =>
      simp only [Act.orElseFail, Act.ask, hroot] at h
      cases h
      refine .unconfigured ?_
      rintro c ⟨path, hpath, -⟩
      rw [hroot] at hpath
      cases hpath
  | ok path =>
      simp only [Act.orElseFail, Act.ask, hroot, Act.bind_apply] at h
      cases hload : Config.load host path s with
      | error f =>
          simp only [hload] at h
          cases h
          refine .unconfigured ?_
          rintro c ⟨path', hpath, hc⟩
          rw [hroot, Except.ok.injEq] at hpath
          subst hpath
          rw [hload] at hc
          cases hc
      | ok c =>
          have hc : Configured host root s c := ⟨path, hroot, hload⟩
          simp only [hload] at h
          rcases hdirs : c.ensureStateDir host s with ⟨_ | p, s₁⟩
          · simp only [hdirs] at h
            cases h
            exact .unmade hc hdirs
          · cases eq_statePath_of_ensureStateDir hdirs
            simp only [hdirs] at h
            rcases hlog : host.openLog c.logPath s₁ with ⟨_ | _, s₂⟩
            · simp only [hlog] at h
              cases h
              exact .unlogged hc hdirs hlog
            · simp only [hlog] at h
              cases h
              exact .ready ⟨hc, s₁, hdirs, hlog⟩

/-! ## Storing a completion -/

/-- A completion is stored: `c'` is what the file says then, and is `c` with the name completed. -/
structure Advances (host : Host σ) (file : Path) (bytes : σ → β) (name : String) (c : Catalog)
    (s : σ) (c' : Catalog) (s' : σ) : Prop where
  synced : Catalog.Synced host file c' s'
  agrees : c'.Agrees
  names : c'.names = c.names
  pointer : c'.progress.currentExercise = c.progress.currentExercise
  lookup : ∀ n, c'.progress.exercises.lookup n =
    if n = name then some true else c.progress.exercises.lookup n
  kept : c.progress.isCompleted name = true → bytes s' = bytes s

section Storing

variable {config : Config} {bytes : σ → β} {c c' : Catalog} {n : String}

/-- A success that is counted without a failure is stored, unless it was before. -/
theorem advances_of_counted (h : host.Shields config bytes)
    (hclock : ∀ s, (host.now s).isValid = true) (hc : c.Agrees) (hn : n ∈ c.names)
    (hsynced : Catalog.Synced host config.progressPath c s) {attempts : Nat}
    (hcount : Catalog.Counted (host.progressStore config.progressPath) n true c s (.ok attempts)
      c' s') : Advances host config.progressPath bytes n c s c' s' := by
  have hlookup (m : String) : c'.progress.exercises.lookup m =
      if m = n then some true else c.progress.exercises.lookup m := by
    have hall := hcount.lookup m
    simpa [Except.isOk, Except.toBool] using hall
  refine ⟨hsynced.counted hc h.keeps hclock hcount, hc.counted hcount, hcount.names,
    hcount.pointer, hlookup, fun hdone => ?_⟩
  -- Nothing was stored if there was nothing to store.
  rcases hcount.success_cases hc hn with ⟨-, -, -, rfl⟩ | ⟨hopen, -⟩ | ⟨_, -, hno, -⟩
  · rfl
  · rw [hdone] at hopen
    cases hopen
  · cases hno

/-- A success of an exercise of the catalog that is not counted was not stored. -/
theorem unsaved_of_counted (h : host.Shields config bytes) (hc : c.Agrees) (hn : n ∈ c.names)
    {f : Catalog.Failure} (hcount : Catalog.Counted (host.progressStore config.progressPath) n true
      c s (.error f) c' s') :
    c.progress.isCompleted n = false ∧ bytes s' = bytes s := by
  -- Only a save that fails refuses the count.
  rcases hcount.success_cases hc hn with ⟨-, hno, -⟩ | ⟨-, hno, -⟩ | ⟨_, hopen, -, -, hsave⟩
  · cases hno
  · cases hno
  · simp only [Host.progressStore] at hsave
    exact ⟨hopen, h.unsaved hsave⟩

/-- What the file says of a name is what the record in memory says. -/
theorem completed_iff_of_stored {file : Path} (h : Catalog.Stored host file c s) (n : String) :
    Completed host file s n ↔ c.progress.isCompleted n = true := by
  constructor
  · rintro ⟨record, hrecord, hn⟩
    have hsame := hrecord.unique h
    rw [hsame] at hn
    simp [Progress.isCompleted, hn]
  · intro hn
    exact ⟨_, h, Progress.lookup_of_isCompleted hn⟩

/-- A catalog that agrees with the file knows what the file has completed. -/
theorem completed_iff_of_synced {file : Path} (h : Catalog.Synced host file c s) (n : String) :
    Completed host file s n ↔ c.progress.isCompleted n = true :=
  completed_iff_of_stored ⟨_, h, rfl⟩ n

end Storing

/-! ## The check of the exercise -/

/-- How a run goes on that got to an exercise, and what it says in the end. -/
inductive Concluded (host : Host σ) (paint : Paint) (bytes : σ → β) (w : Workspace) (e : Exercise)
    (t : σ) : Printed → Nat → σ → Prop where
  | failed {printed : Printed} {s' : σ} :
      ¬((w.runner.validate host e t).1.success = true ∧
        Completed host w.config.progressPath s' e.name) →
      bytes s' = bytes t → Concluded host paint bytes w e t printed 1 s'
  | passed {before : Printed} {c : Catalog} {s' : σ} :
      (w.runner.validate host e t).1.success = true →
      Advances host w.config.progressPath bytes e.name w.catalog t c s' →
      Concluded host paint bytes w e t (before ++ outlook paint c) 0 s'

/-- A run that got to an exercise ends in one of the ways of `Concluded`. -/
theorem concluded_of_runOne {bytes : σ → β} {w : Workspace} {e : Exercise} {out : Printed × Ending}
    (hreach : Reaches host root name s w e t) (h : host.Shields w.config bytes)
    (hharmless : w.runner.Harmless host e bytes) (hclock : ∀ s, (host.now s).isValid = true)
    (hrun : runOne host paint w e t = (out, s')) :
    ∃ code, out.2 = .exit code ∧ Concluded host paint bytes w e t out.1 code s' := by
  obtain ⟨hprogress, hfile, -⟩ := Catalog.exists_of_load hreach.catalog
  have hc := Catalog.agrees_of_load hreach.catalog
  have hn : e.name ∈ w.catalog.names := List.mem_map_of_mem hreach.mem
  have hpath : w.catalog.progressFile = w.config.progressPath := hfile
  unfold runOne at hrun
  rcases hjudge : w.runner.validate host e t with ⟨v, t₁⟩
  -- The check has left the file as it was.
  have hbytes : bytes t₁ = bytes t := by
    have hsame := hharmless.validate t
    rw [hjudge] at hsame
    exact hsame
  have hsynced : Catalog.Synced host w.config.progressPath w.catalog t₁ :=
    (Progress.load_congr (h.look hbytes)).trans hprogress
  rw [hpath, hjudge] at hrun
  rcases hcount : Catalog.recordAttempt (host.progressStore w.config.progressPath) e.name v.success
    (w.catalog, t₁) with ⟨r, c', t₂⟩
  have hend := Catalog.counted_of_eq hcount
  simp only [hcount] at hrun
  cases hv : v.success with
  | false =>
      -- An attempt without success is counted in memory only.
      rw [hv] at hend
      have hnot : ¬((w.runner.validate host e t).1.success = true ∧
          Completed host w.config.progressPath s' e.name) := by simp [hjudge, hv]
      cases hend with
      | unknown =>
          cases hrun
          exact ⟨1, rfl, .failed hnot hbytes⟩
      | failed =>
          simp only [hv] at hrun
          cases hrun
          exact ⟨1, rfl, .failed hnot hbytes⟩
      | passed _ hno => cases hno
      | refused _ hno => cases hno
  | true =>
      rw [hv] at hend
      cases r with
      | error f =>
          cases hrun
          obtain ⟨hopen, hsame⟩ := unsaved_of_counted h hc hn hend
          refine ⟨1, rfl, .failed (fun hboth => ?_) (hsame.trans hbytes)⟩
          -- The file is as it was, and the exercise was not completed there.
          have hfile' := (Progress.load_congr (h.look hsame)).trans hsynced
          have hdone := (completed_iff_of_synced hfile' e.name).1 hboth.2
          rw [hopen] at hdone
          cases hdone
      | ok attempts =>
          have hadvances := advances_of_counted h hclock hc hn hsynced hend
          simp only [hv, if_true] at hrun
          cases hrun
          have hsuccess : (w.runner.validate host e t).1.success = true := by
            rw [hjudge]
            exact hv
          exact ⟨0, rfl, .passed hsuccess
            { hadvances with kept := fun hdone => (hadvances.kept hdone).trans hbytes }⟩

/-- What comes before it, and what leaves the file alone after it, makes no difference. -/
theorem Concluded.around {bytes : σ → β} {w : Workspace} {e : Exercise} {printed : Printed}
    {code : Nat} {u : σ} (hend : Concluded host paint bytes w e t printed code u)
    (h : host.Shields w.config bytes) (before : Printed) (hsame : bytes s' = bytes u) :
    Concluded host paint bytes w e t (before ++ printed) code s' := by
  have hlook := h.look hsame
  cases hend with
  | failed hnot hbytes =>
      exact .failed (fun hboth => hnot ⟨hboth.1, hboth.2.congr hlook.symm⟩) (hsame.trans hbytes)
  | @passed told c _ hsuccess hadvances =>
      rw [← List.append_assoc]
      exact .passed hsuccess { hadvances with
        synced := (Progress.load_congr hlook).trans hadvances.synced
        kept := fun hdone => hsame.trans (hadvances.kept hdone) }

/-! ## The whole run -/

/-- How a run may end, with what it has printed, its exit code, and the machine then. -/
inductive Outcome (host : Host σ) (paint : Paint) (root : String) (name : Option String) (s : σ)
    (bytes : Path → σ → β) : Printed → Nat → σ → Prop where
  | unconfigured {printed : Printed} : (∀ c, ¬Configured host root s c) →
      Outcome host paint root name s bytes printed 1 s
  | refused {c : Config} {printed : Printed} {s' : σ} : Configured host root s c →
      (∀ w e t, ¬Reaches host root name s w e t) →
      bytes c.progressPath s' = bytes c.progressPath s →
      Outcome host paint root name s bytes printed 1 s'
  | reached {w : Workspace} {e : Exercise} {t : σ} {printed : Printed} {code : Nat} {s' : σ} :
      Reaches host root name s w e t →
      bytes w.config.progressPath t = bytes w.config.progressPath s →
      Concluded host paint (bytes w.config.progressPath) w e t printed code s' →
      Outcome host paint root name s bytes printed code s'

variable {bytes : Path → σ → β}

/-- A run of a project that is ready. -/
theorem outcome_of_run {c : Config} {s₁ : σ} (hclock : ∀ s, (host.now s).isValid = true)
    (hready : Ready host root s c s₁) (h : host.Shields c (bytes c.progressPath))
    (hharmless : ∀ w e t, Reaches host root name s w e t →
      w.runner.Harmless host e (bytes w.config.progressPath))
    (hbytes : bytes c.progressPath s₁ = bytes c.progressPath s) {out : Printed × Ending}
    (hrun : run host paint c name s₁ = (out, s')) :
    ∃ code, out.2 = .exit code ∧ Outcome host paint root name s bytes out.1 code s' := by
  unfold run locked at hrun
  rcases hacquire : SessionLock.acquire host c.lockPath s₁ with ⟨f | lock, t⟩
  · rw [hacquire] at hrun
    cases hrun
    refine ⟨1, rfl, .refused hready.configured (fun w e t' hreach => ?_)
      ((h.acquire.eq hacquire).trans hbytes)⟩
    obtain ⟨-, lock, hacquire'⟩ := hreach.acquires hready
    rw [hacquire] at hacquire'
    cases hacquire'
  · have ht : bytes c.progressPath t = bytes c.progressPath s :=
      (h.acquire.eq hacquire).trans hbytes
    rcases hopen : openFor host c name t with text | ⟨w, e⟩
    · have hinner := hopen
      rw [openFor] at hinner
      simp only [hacquire, hinner, giveUp] at hrun
      cases hrun
      refine ⟨1, rfl, .refused hready.configured (fun w e t' hreach => ?_) (h.unlock.trans ht)⟩
      -- All that a run gets by is read off the machine, so it would have been opened here.
      obtain ⟨rfl, _, hacquire'⟩ := hreach.acquires hready
      rw [hacquire] at hacquire'
      cases hacquire'
      have hload := load_eq_ok_iff.2 ⟨rfl, hreach.checks, hreach.runner, hreach.catalog⟩
      simp [openFor, Except.bind, Except.map, hload, hreach.selected] at hopen
    -- The exercise is checked, and the lock is given back after that.
    · obtain ⟨hload, hselect⟩ := openFor_eq_ok hopen
      obtain ⟨rfl, hchecks, hrunner, hcatalog⟩ := load_eq_ok_iff.1 hload
      have hreach : Reaches host root name s w e t :=
        ⟨⟨s₁, lock, hready, hacquire⟩, hchecks, hrunner, hcatalog, hselect⟩
      rcases hone : runOne host paint w e t with ⟨⟨printed, ending⟩, u⟩
      obtain ⟨code, hcode, hend⟩ :=
        concluded_of_runOne hreach h (hharmless w e t hreach) hclock hone
      cases hcode
      have hinner := hopen
      rw [openFor] at hinner
      simp only [hacquire, hinner, hone] at hrun
      cases hrun
      exact ⟨code, rfl, .reached hreach ht (hend.around h _ h.unlock)⟩

/-- A run ends in one of the ways of `Outcome`. -/
theorem outcome_of_execute (hclock : ∀ s, (host.now s).isValid = true)
    (hshields : ∀ c, Configured host root s c → host.Shields c (bytes c.progressPath))
    (hharmless : ∀ w e t, Reaches host root name s w e t →
      w.runner.Harmless host e (bytes w.config.progressPath))
    {out : Printed × Ending} (hrun : execute host paint root (.run name) s = (out, s')) :
    ∃ code, out.2 = .exit code ∧ Outcome host paint root name s bytes out.1 code s' := by
  unfold execute at hrun
  rcases hprepare : prepare host root s with ⟨r, s₁⟩
  simp only [hprepare] at hrun
  cases readied_of_eq hprepare with
  | unconfigured hno =>
      cases hrun
      exact ⟨1, rfl, .unconfigured hno⟩
  | unmade hc hdirs =>
      cases hrun
      refine ⟨1, rfl, .refused hc (fun w e t hreach => ?_)
        ((hshields _ hc).ensureStateDir.eq hdirs)⟩
      obtain ⟨_, _, hready, -⟩ := hreach.locked
      obtain ⟨_, hdirs', -⟩ := hready.opened
      obtain rfl := hc.unique hready.configured
      rw [hdirs] at hdirs'
      cases hdirs'
  | unlogged hc hdirs hlog =>
      cases hrun
      refine ⟨1, rfl, .refused hc (fun w e t hreach => ?_) (((hshields _ hc).openLog.eq hlog).trans
        ((hshields _ hc).ensureStateDir.eq hdirs))⟩
      obtain ⟨_, _, hready, -⟩ := hreach.locked
      obtain ⟨_, hdirs', hlog'⟩ := hready.opened
      obtain rfl := hc.unique hready.configured
      rw [hdirs] at hdirs'
      cases hdirs'
      rw [hlog] at hlog'
      cases hlog'
  | ready hready =>
      have h := hshields _ hready.configured
      obtain ⟨_, hdirs, hlog⟩ := hready.opened
      exact outcome_of_run hclock hready h hharmless
        ((h.openLog.eq hlog).trans (h.ensureStateDir.eq hdirs)) hrun

/-! ## What is said in the end -/

/-- The announcement that every exercise is completed. -/
def allDone (paint : Paint) : Channel × String :=
  (.out, "\n" ++ paint.boldGreen "✓" ++ " All exercises completed!" ++ "\n")

/-- The announcement of the exercise to go on with. -/
def nextUp (paint : Paint) (name : String) : Channel × String :=
  (.out, "\n" ++ paint.boldCyan "→" ++ " Next up: " ++ name ++ "\n")

theorem outlook_eq (paint : Paint) (c : Catalog) : outlook paint c =
    [c.nextIncomplete.elim (allDone paint) fun e => nextUp paint e.name] := by
  unfold outlook
  cases c.nextIncomplete with
  | none => rfl
  | some e => rfl

/-- A text that starts with an arrow is none that starts with a tick. -/
theorem arrow_append_ne_tick_append (paint : Paint) (u v : String) :
    paint.boldCyan "→" ++ u ≠ paint.boldGreen "✓" ++ v := by
  intro h
  have htext := congrArg (fun x => x.toList.take 6) h
  obtain ⟨_ | _⟩ := paint
  · simp [Paint.boldCyan, Paint.boldGreen, Paint.with_] at htext
  · have hcyan : (Paint.mk true).boldCyan "→" = "\x1b[1;36m→\x1b[0m" := by decide +kernel
    have hgreen : (Paint.mk true).boldGreen "✓" = "\x1b[1;32m✓\x1b[0m" := by decide +kernel
    simp [hcyan, hgreen] at htext

/-- The two announcements differ in their sign. -/
theorem nextUp_ne_allDone (paint : Paint) (name : String) : nextUp paint name ≠ allDone paint := by
  intro h
  have htext := congrArg (·.2) h
  simp only [nextUp, allDone, String.append_assoc, String.append_right_inj] at htext
  exact arrow_append_ne_tick_append paint _ _ htext

/-- What the last line says is what the file says of the exercises. -/
theorem Advances.announces {file : Path} {bytes : σ → β} {n : String} {c c' : Catalog}
    (h : Advances host file bytes n c s c' s') (before : Printed) :
    ((before ++ outlook paint c').getLast? = some (allDone paint) ↔
      ∀ x ∈ c.exercises, Completed host file s' x.name) ∧
    ((¬∀ x ∈ c.exercises, Completed host file s' x.name) →
      ∃ (done : List Exercise) (next : Exercise) (rest : List Exercise),
        c.exercises = done ++ next :: rest ∧ (∀ x ∈ done, Completed host file s' x.name) ∧
        ¬Completed host file s' next.name ∧
        (before ++ outlook paint c').getLast? = some (nextUp paint next.name)) := by
  have hflag {x : Exercise} (hx : x ∈ c'.exercises) :
      Completed host file s' x.name ↔ x.completed = true := by
    rw [completed_iff_of_synced h.synced, h.agrees.flags x hx]
  rw [outlook_eq, List.getLast?_concat, Option.some.injEq]
  cases hnext : c'.nextIncomplete with
  | none =>
      have hall : ∀ x ∈ c.exercises, Completed host file s' x.name := by
        intro x hx
        have hname : x.name ∈ c'.names := h.names ▸ List.mem_map_of_mem hx
        obtain ⟨x', hx', hsame⟩ := List.mem_map.1 hname
        have hdone := List.find?_eq_none.1 hnext x' hx'
        rw [← hsame, hflag hx']
        simpa using hdone
      exact ⟨⟨fun _ => hall, fun _ => rfl⟩, fun hno => absurd hall hno⟩
  | some e =>
      obtain ⟨hopen, before', after, hsplit, hdone⟩ := List.find?_eq_some_iff_append.1 hnext
      -- The names are the same, so the first incomplete exercise stands at the same place.
      have hnames : c.exercises.map (·.name) =
          before'.map (·.name) ++ e.name :: after.map (·.name) := by
        have hall := h.names
        unfold Catalog.names at hall
        rw [← hall, hsplit, List.map_append, List.map_cons]
      obtain ⟨done, tail, hexercises, hdoneNames, htail⟩ := List.map_eq_append_iff.1 hnames
      obtain ⟨next, rest, rfl, hname, -⟩ := List.map_eq_cons_iff.1 htail
      have hnot : ¬Completed host file s' next.name := by
        rw [hname, hflag (hsplit ▸ by simp)]
        simpa using hopen
      have hbefore : ∀ x ∈ done, Completed host file s' x.name := by
        intro x hx
        have hmem : x.name ∈ before'.map (·.name) := hdoneNames ▸ List.mem_map_of_mem hx
        obtain ⟨x', hx', hsame⟩ := List.mem_map.1 hmem
        rw [← hsame, hflag (hsplit ▸ List.mem_append_left _ hx')]
        simpa using hdone x' hx'
      refine ⟨⟨fun heq => absurd heq (nextUp_ne_allDone paint e.name), fun hall => ?_⟩, fun _ =>
        ⟨done, next, rest, hexercises, hbefore, hnot, ?_⟩⟩
      · exact absurd (hall next (hexercises ▸ by simp)) hnot
      · rw [Option.elim, hname]

/-! ## The transaction -/

/-- What a run that ends with code 0 has stored, and what it says in the end. -/
structure Commits (host : Host σ) (paint : Paint) (bytes : Path → σ → β) (s : σ) (w : Workspace)
    (e : Exercise) (printed : Printed) (s' : σ) : Prop where
  /-- The record is the old one with the exercise completed, and the pointer is where it was. -/
  record : ∃ p p', Progress.load host w.config.progressPath s = .ok p ∧
    Progress.load host w.config.progressPath s' = .ok p' ∧
    p'.currentExercise = p.currentExercise ∧
    ∀ n, p'.exercises.lookup n = if n = e.name then some true else p.exercises.lookup n
  /-- An exercise that was completed before is not stored again. -/
  kept : Completed host w.config.progressPath s e.name →
    bytes w.config.progressPath s' = bytes w.config.progressPath s
  /-- That every exercise is completed is said exactly if the file says so. -/
  allDone : printed.getLast? = some (allDone paint) ↔
    ∀ x ∈ w.catalog.exercises, Completed host w.config.progressPath s' x.name
  /-- Else the first exercise is named that is not. -/
  next : (¬∀ x ∈ w.catalog.exercises, Completed host w.config.progressPath s' x.name) →
    ∃ (done : List Exercise) (next : Exercise) (rest : List Exercise),
      w.catalog.exercises = done ++ next :: rest ∧
      (∀ x ∈ done, Completed host w.config.progressPath s' x.name) ∧
      ¬Completed host w.config.progressPath s' next.name ∧
      printed.getLast? = some (nextUp paint next.name)

/-- A run that advanced the catalog committed the success to the file. -/
theorem commits_of_advances {w : Workspace} {e : Exercise} {c : Catalog}
    (hreach : Reaches host root name s w e t)
    (h : host.Shields w.config (bytes w.config.progressPath))
    (ht : bytes w.config.progressPath t = bytes w.config.progressPath s)
    (hadvances : Advances host w.config.progressPath (bytes w.config.progressPath) e.name w.catalog
      t c s') (before : Printed) :
    Commits host paint bytes s w e (before ++ outlook paint c) s' := by
  obtain ⟨hload, -⟩ := Catalog.exists_of_load hreach.catalog
  have hsynced : Catalog.Synced host w.config.progressPath w.catalog s := by
    unfold Catalog.Synced
    rw [← Progress.load_congr (h.look ht)]
    exact hload
  refine ⟨⟨_, _, hsynced, hadvances.synced, hadvances.pointer, hadvances.lookup⟩, fun hdone => ?_,
    (hadvances.announces before).1, (hadvances.announces before).2⟩
  exact (hadvances.kept ((completed_iff_of_synced hsynced e.name).1 hdone)).trans ht

/--
Running one exercise is a transaction on the progress file.  It ends with code 0 exactly if it gets
to an exercise, the check of it is a success, and the file says then that it is completed; what
is stored and said in that case is `Commits`.  Else it ends with code 1, and the bytes of the file
are the same as before; without a configuration nothing happens at all.
-/
theorem run_transacts {words : List String} {verbose : Bool}
    (hparse : Arguments.parse words = .execute root verbose (.run name))
    (hclock : ∀ s, (host.now s).isValid = true)
    (hshields : ∀ c, Configured host root s c → host.Shields c (bytes c.progressPath))
    (hharmless : ∀ w e t, Reaches host root name s w e t →
      w.runner.Harmless host e (bytes w.config.progressPath)) :
    ∃ printed code s', start host paint words s = ((printed, .exit code), s') ∧
      (code = 0 ↔ ∃ w e t, Reaches host root name s w e t ∧
        (w.runner.validate host e t).1.success = true ∧
        Completed host w.config.progressPath s' e.name) ∧
      (code = 0 → ∀ w e t, Reaches host root name s w e t →
        Commits host paint bytes s w e printed s') ∧
      (code ≠ 0 → code = 1 ∧ ((∀ c, ¬Configured host root s c) → s' = s) ∧
        ∀ c, Configured host root s c → bytes c.progressPath s' = bytes c.progressPath s) := by
  rcases hrun : execute host paint root (.run name) s with ⟨⟨printed, ending⟩, s'⟩
  obtain ⟨code, hcode, hout⟩ := outcome_of_execute hclock hshields hharmless hrun
  cases hcode
  have hstart : start host paint words s = ((printed, .exit code), s') := by
    simp only [start, hparse, hrun]
  refine ⟨printed, code, s', hstart, ?_⟩
  cases hout with
  | unconfigured hno =>
      refine ⟨⟨fun hone => absurd hone (by decide), ?_⟩,
        fun hone => absurd hone (by decide),
        fun _ => ⟨rfl, fun _ => rfl, fun _ _ => rfl⟩⟩
      rintro ⟨w, e, t, hreach, -⟩
      exact absurd hreach.configured (hno w.config)
  | refused hc hno hbytes =>
      refine ⟨⟨fun hone => absurd hone (by decide), ?_⟩,
        fun hone => absurd hone (by decide),
        fun _ => ⟨rfl, fun hnone => absurd hc (hnone _), fun c' hc' => ?_⟩⟩
      · rintro ⟨w, e, t, hreach, -⟩
        exact absurd hreach (hno w e t)
      · obtain rfl := hc.unique hc'
        exact hbytes
  | @reached w e t _ _ _ hreach ht hend =>
      cases hend with
      | failed hnot hbytes =>
          refine ⟨⟨fun hone => absurd hone (by decide), ?_⟩,
        fun hone => absurd hone (by decide),
            fun _ => ⟨rfl, fun hnone => absurd hreach.configured (hnone _), fun c' hc' => ?_⟩⟩
          · rintro ⟨w', e', t', hreach', hboth⟩
            obtain ⟨rfl, rfl, rfl⟩ := hreach.unique hreach'
            exact absurd hboth hnot
          · obtain rfl := hreach.configured.unique hc'
            exact hbytes.trans ht
      | passed hsuccess hadvances =>
          have hdone : Completed host w.config.progressPath s' e.name := by
            rw [completed_iff_of_synced hadvances.synced, Progress.isCompleted,
              hadvances.lookup, if_pos rfl]
            rfl
          refine ⟨⟨fun _ => ⟨w, e, t, hreach, hsuccess, hdone⟩, fun _ => rfl⟩,
            fun _ w' e' t' h' => ?_, fun hno => absurd rfl hno⟩
          obtain ⟨rfl, rfl, rfl⟩ := hreach.unique h'
          exact commits_of_advances hreach (hshields _ hreach.configured) ht hadvances _

end Program

/-! ## Runs on a cabinet -/

/-- What is put behind a directory ends the path. -/
theorem Path.getLast?_join (dir : Path) {q : String} (hq : q ≠ "") :
    (dir.join q).text.toList.getLast? = q.toList.getLast? := by
  have hne : q.toList ≠ [] := by simpa using hq
  unfold Path.join
  split
  · rfl
  · split
    · rw [String.toList_append, List.getLast?_append_of_ne_nil _ hne]
    · rw [String.toList_append, List.getLast?_append_of_ne_nil _ hne]

namespace Cabinet

variable {now : Timestamp} {file path : Path}

/-- To write another file leaves this one. -/
theorem leaves_writeText (hne : path ≠ file) (text : String) :
    ((host now).writeText path text).Leaves ((host now).look file) := by
  intro s
  rcases hwrite : (host now).writeText path text s with ⟨r, s'⟩
  rcases Shelf.writeText_cases (onShelf_eq hwrite).1 with ⟨-, -, hput⟩ | ⟨-, hsame⟩
  · rw [look_eq, look_eq, hput]
    refine Shelf.look_congr now rfl ?_
    rw [Shelf.lookup_put, if_neg hne.symm]
  · rw [look_eq, look_eq, hsame]

/-- A cabinet keeps the promises about progress. -/
theorem shields {c : Config} (hside : Progress.sidePath c.progressPath ≠ c.progressPath) :
    (host now).Shields c ((host now).look c.progressPath) where
  look h := h
  makeDirs _ _ := rfl
  openLog _ := rfl
  lock s := by
    rcases lock_cases (Prod.eta (lock s)).symm with ⟨-, -, hs⟩ | ⟨-, hs⟩
    · exact (congrArg (fun t => (host now).look c.progressPath t) hs).trans rfl
    · exact congrArg (fun t => (host now).look c.progressPath t) hs
  unlock := rfl
  write := leaves_writeText hside _
  written h := (keeps now hside).look_written h
  renamed h := (keeps now hside).look_renamed h
  unrenamed h := (keeps now hside).look_unrenamed h

/-- A validation on a cabinet leaves a file that is not the toolchain's own one. -/
theorem harmless {r : Runner} {e : Exercise}
    (hfile : ∀ scaffold, r.toolchain.scaffold = some scaffold → e.dir.join scaffold.file ≠ file) :
    r.Harmless (host now) e ((host now).look file) where
  makeDirs _ := rfl
  scaffold h := leaves_writeText (hfile _ h) _
  execute _ _ := rfl

end Cabinet

namespace Program

open Progress (Completed)
open World (helloConfig helloHost helloCabinet)

theorem configured_hello : Configured helloHost "/kata" helloCabinet helloConfig :=
  ⟨⟨"/kata"⟩, by decide +kernel⟩

/-- The exercise is checked with success, and that is stored. -/
theorem run_transacts_hello :
    Arguments.parse ["--root", "/kata", "run", "hello"] =
      .execute "/kata" false (.run (some "hello")) ∧
    ∃ printed s', start helloHost ⟨false⟩ ["--root", "/kata", "run", "hello"] helloCabinet =
        ((printed, .exit 0), s') ∧
      ∃ w e t, Reaches helloHost "/kata" (some "hello") helloCabinet w e t ∧
        Completed helloHost w.config.progressPath s' e.name ∧
        Commits helloHost ⟨false⟩ helloHost.look helloCabinet w e printed s' := by
  have hparse : Arguments.parse ["--root", "/kata", "run", "hello"] =
      .execute "/kata" false (.run (some "hello")) := by decide +kernel
  have hside : Progress.sidePath helloConfig.progressPath ≠ helloConfig.progressPath := by
    decide +kernel
  have hcode : (start helloHost ⟨false⟩ ["--root", "/kata", "run", "hello"] helloCabinet).1.2 =
      .exit 0 := by decide +kernel
  have hshields (c : Config) (hc : Configured helloHost "/kata" helloCabinet c) :
      helloHost.Shields c (helloHost.look c.progressPath) := by
    obtain rfl := configured_hello.unique hc
    exact Cabinet.shields hside
  have hharmless (w : Workspace) (e : Exercise) (t : Cabinet)
      (h : Reaches helloHost "/kata" (some "hello") helloCabinet w e t) :
      w.runner.Harmless helloHost e (helloHost.look w.config.progressPath) := by
    refine Cabinet.harmless fun scaffold hscaffold hsame => ?_
    rw [h.runner, ← configured_hello.unique h.configured] at hscaffold
    cases hscaffold
    have hlast := congrArg (fun p => p.text.toList.getLast?) hsame
    simp only [Path.getLast?_join _ (show "go.mod" ≠ "" by decide),
      ← configured_hello.unique h.configured] at hlast
    exact absurd hlast (by decide +kernel)
  obtain ⟨printed, code, s', hstart, hiff, hcommits, -⟩ :=
    run_transacts hparse (fun _ => rfl) hshields hharmless
  rw [hstart] at hcode
  cases hcode
  obtain ⟨w, e, t, hreach, -, hdone⟩ := hiff.1 rfl
  exact ⟨hparse, printed, s', hstart, w, e, t, hreach, hdone, hcommits rfl w e t hreach⟩

/-- A machine where the toolchain's own file is called as the progress is, and lies there too. -/
def overlapCabinet : Cabinet where
  shelf := {
    directories := [⟨"/kata/exercises"⟩]
    files := [
      (⟨"/kata/kata.toml"⟩, "state_dir = \"exercises\"\n\n[toolchain]\nbuild = \"true\"\n\n" ++
        "[toolchain.scaffold]\nfile = \"progress.toml\"\ncontents = \"# \x7bname\x7d\\n\"\n"),
      (⟨"/kata/exercises/a.toml"⟩,
        "[exercise]\nname = \"a\"\n\n[description]\ntitle = \"A\"\n\n" ++
          "[validation]\nmode = \"build\"\n\n[hints]\nlevel_1 = \"Fill it in.\"\n"),
      (⟨"/kata/exercises/a.go"⟩, "// TODO\n")]
    full := false }
  locked := false

/--
No command touches anything, and yet a run that ends with code 1 leaves a progress file where there
was none: it is the toolchain's own file for the exercise.
-/
theorem run_leaves_scaffold :
    (∀ command dir limit s, (helloHost.execute command dir limit s).2 = s) ∧
    ∃ c, Configured helloHost "/kata" overlapCabinet c ∧
      helloHost.Shields c (helloHost.look c.progressPath) ∧
      ∃ printed s', start helloHost ⟨false⟩ ["--root", "/kata", "run", "a"] overlapCabinet =
          ((printed, .exit 1), s') ∧
        helloHost.look c.progressPath overlapCabinet = none ∧
        helloHost.look c.progressPath s' = some (.ok "# a\n") := by
  let c := (Config.load helloHost ⟨"/kata"⟩ overlapCabinet).toOption.getD default
  let run := start helloHost ⟨false⟩ ["--root", "/kata", "run", "a"] overlapCabinet
  obtain ⟨hload, hside, hbefore⟩ : Config.load helloHost ⟨"/kata"⟩ overlapCabinet = .ok c ∧
      Progress.sidePath c.progressPath ≠ c.progressPath ∧
      helloHost.look c.progressPath overlapCabinet = none := by decide +kernel
  obtain ⟨hcode, hafter⟩ : run.1.2 = .exit 1 ∧
      helloHost.look c.progressPath run.2 = some (.ok "# a\n") := by decide +kernel
  refine ⟨fun _ _ _ _ => rfl, c, ⟨⟨"/kata"⟩, rfl, hload⟩, Cabinet.shields hside, run.1.1, run.2,
    ?_, hbefore, hafter⟩
  rw [← hcode]

end Program
end Trainer
