import Mathlib
import Trainer.Proofs.Program.Process
import Trainer.Proofs.Runner.Success

/-!
# What leaves the stored progress alone

A reader finds a text at the progress file, or a refusal; but the file may hold what no reader can
make a text of, and that is not to be lost either.  So it is the bytes of the file that count here,
given by any function `bytes` on the states of the machine that decides what a reader finds.

* `Host.Shields` is what a machine promises about the bytes of the progress: making the places of
  the state, the log and the lock leaves them alone, and so does a save up to its last step.  What
  is promised about a save follows (`Host.Shields.keeps`), and a save that fails leaves the bytes
  (`Host.Shields.unsaved`).
* `Runner.Harmless` is what is asked of the things that a validation makes and runs: the commands of
  the toolchain do not touch the progress, and the toolchain's own file is another one.  Then each
  step of a validation leaves the bytes (`Runner.Step.Leaves`), and so does the whole
  (`Runner.Harmless.validate`).
-/

namespace Trainer

variable {σ β ε ε' α α' : Type}

/-! ## Actions that leave something alone -/

/-- Whether or not an action fails, what `bytes` reads off the state is the same after it. -/
def Act.Leaves (x : Act σ ε α) (bytes : σ → β) : Prop :=
  ∀ s, bytes (x s).2 = bytes s

namespace Act.Leaves

variable {bytes : σ → β} {x : Act σ ε α} {s s' : σ}

theorem eq {r : Except ε α} (h : x.Leaves bytes) (hx : x s = (r, s')) : bytes s' = bytes s := by
  have hs := h s
  rw [hx] at hs
  exact hs

theorem pure (a : α) : (pure a : Act σ ε α).Leaves bytes := fun _ => rfl

theorem bind {f : α → Act σ ε α'} (h : x.Leaves bytes) (hf : ∀ a, (f a).Leaves bytes) :
    (x >>= f).Leaves bytes := by
  intro s
  rw [Act.bind_apply]
  rcases hx : x s with ⟨_ | a, t⟩
  · exact h.eq hx
  · exact (hf a t).trans (h.eq hx)

theorem orElseFail (h : x.Leaves bytes) (f : ε → ε') : (x.orElseFail f).Leaves bytes := by
  intro s
  rcases Progress.orElseFail_cases (Prod.eta (x.orElseFail f s)).symm with
    ⟨_, hx, -⟩ | ⟨_, hx, -⟩
  · exact h.eq hx
  · exact h.eq hx

end Act.Leaves

/-! ## The places of the state -/

/-- What a machine promises about the bytes of the progress of a configuration. -/
structure Host.Shields (host : Host σ) (c : Config) (bytes : σ → β) : Prop where
  /-- What a reader finds depends on the bytes alone. -/
  look {s s' : σ} : bytes s' = bytes s →
    host.look c.progressPath s' = host.look c.progressPath s
  /-- Making the directories of the state does not touch the progress. -/
  makeDirs {dir : Path} : dir ∈ [c.statePath, c.artifactDir] ∨ c.progressPath.parent? = some dir →
    (host.makeDirs dir).Leaves bytes
  /-- Neither does opening the log. -/
  openLog : (host.openLog c.logPath).Leaves bytes
  /-- Nor asking for the lock. -/
  lock : (host.lock c.lockPath).Leaves bytes
  /-- Nor giving it back. -/
  unlock {handle : Nat} {s : σ} : bytes (host.unlock handle s) = bytes s
  /-- Writing the file beside the progress, be it in part, does not touch the progress. -/
  write {text : String} :
    (host.writeText (Progress.sidePath c.progressPath) text).Leaves bytes
  /-- What was written there in full is there to be read. -/
  written {text : String} {s s' : σ} :
    host.writeText (Progress.sidePath c.progressPath) text s = (.ok (), s') →
    host.look (Progress.sidePath c.progressPath) s' = some (.ok text)
  /-- The file beside the progress brings its contents along when it takes the place of it. -/
  renamed {s s' : σ} :
    host.rename (Progress.sidePath c.progressPath) c.progressPath s = (.ok (), s') →
    host.look c.progressPath s' = host.look (Progress.sidePath c.progressPath) s
  /-- A refused replacement does not touch the progress. -/
  unrenamed {cause : IoError} {s s' : σ} :
    host.rename (Progress.sidePath c.progressPath) c.progressPath s = (.error cause, s') →
    bytes s' = bytes s

namespace Host.Shields

variable {host : Host σ} {c : Config} {bytes : σ → β} {s s' : σ}

/-- What is promised about a save. -/
theorem keeps (h : host.Shields c bytes) : host.Keeps c.progressPath where
  look_makeDirs hdir hmade := h.look ((h.makeDirs (.inr hdir)).eq hmade)
  look_write hwrite := h.look (h.write.eq hwrite)
  look_written := h.written
  look_renamed := h.renamed
  look_unrenamed hrefused := h.look (h.unrenamed hrefused)

/-- Making the state directory leaves the record alone. -/
theorem ensureStateDir (h : host.Shields c bytes) : (c.ensureStateDir host).Leaves bytes :=
  ((h.makeDirs (by simp)).orElseFail _).bind fun _ =>
    ((h.makeDirs (by simp)).orElseFail _).bind fun _ => .pure _

/-- Taking the lock leaves the record alone. -/
theorem acquire (h : host.Shields c bytes) :
    (SessionLock.acquire host c.lockPath).Leaves bytes :=
  (h.lock.orElseFail _).bind fun _ => .pure _

/-! ## A save that fails -/

variable {p : Progress} {step : Progress.SaveStep} {rest : List Progress.SaveStep}

/-- A step of a save leaves the bytes, but for the last one when it succeeds. -/
theorem run (h : host.Shields c bytes) {r : Except Progress.SaveFailure Unit}
    (hleft : Progress.Left host c.progressPath p s (step :: rest))
    (hrun : step.run host s = (r, s')) (hr : rest ≠ [] ∨ ∃ cause, r = .error cause) :
    bytes s' = bytes s := by
  cases hleft with
  | all hdir => exact ((h.makeDirs (.inr hdir)).orElseFail _).eq hrun
  | write => exact (h.write.orElseFail _).eq hrun
  | replace =>
      rcases Progress.orElseFail_cases hrun with ⟨_, -, rfl⟩ | ⟨_, hrefused, -⟩
      · simp at hr
      · exact h.unrenamed hrefused

/-- A save that fails leaves the record alone, wherever it broke off. -/
theorem runSteps (h : host.Shields c bytes) {cause : Progress.SaveFailure} :
    ∀ {steps : List Progress.SaveStep} {s : σ}, Progress.Left host c.progressPath p s steps →
      Progress.runSteps host steps s = (.error cause, s') → bytes s' = bytes s
  | [step], s, hleft, hsteps => by
      rcases Progress.runSteps_cons_cases hsteps with ⟨t, -, hno⟩ | ⟨cause', hrun, -⟩
      · cases hno
      · exact h.run hleft hrun (.inr ⟨cause', rfl⟩)
  | step :: step' :: rest, s, hleft, hsteps => by
      -- Each step but the last leaves the bytes, whether or not a later one fails.
      rcases Progress.runSteps_cons_cases hsteps with ⟨t, hrun, hrest⟩ | ⟨cause', hrun, -⟩
      · have hnext := (hleft.run_next h.keeps hrun).2
        exact (h.runSteps hnext hrest).trans (h.run hleft hrun (.inl (by simp)))
      · exact h.run hleft hrun (.inr ⟨cause', rfl⟩)

/-- A save that fails leaves the bytes, at whichever step. -/
theorem unsaved (h : host.Shields c bytes) {cause : Progress.SaveFailure}
    (hsave : Progress.save host c.progressPath p s = (.error cause, s')) : bytes s' = bytes s :=
  h.runSteps (Progress.left_saveSteps host c.progressPath p s) hsave

end Host.Shields

/-! ## A validation -/

namespace Runner

/-- What a validation makes and runs does not touch what `bytes` reads off the machine. -/
structure Harmless (host : Host σ) (r : Runner) (e : Exercise) (bytes : σ → β) : Prop where
  /-- Making the directory of built programs does not. -/
  makeDirs : (host.makeDirs r.artifactDir).Leaves bytes
  /-- Writing the toolchain's file into the directory of the exercise does not. -/
  scaffold {file : Scaffold} : r.toolchain.scaffold = some file →
    (host.writeText (e.dir.join file.file) (Toolchain.scaffoldContents file e.name)).Leaves bytes
  /-- No command of the toolchain does. -/
  execute {template : String} :
    template ∈ [r.toolchain.build, r.toolchain.run, r.toolchain.test] →
    (host.execute (Toolchain.render template (r.context e)) e.dir (r.timeoutFor e)).Leaves bytes

/-- A step of a validation leaves what `bytes` reads off the machine. -/
def Step.Leaves (step : Step σ) (bytes : σ → β) : Prop :=
  ∀ v s, bytes (step v s).2 = bytes s

variable {host : Host σ} {r : Runner} {e : Exercise} {bytes : σ → β}

theorem Step.Leaves.andThen {first second : Step σ} (hfirst : first.Leaves bytes)
    (hsecond : second.Leaves bytes) : (first.andThen second).Leaves bytes := by
  intro v s
  have hs := hfirst v s
  unfold Step.andThen
  generalize first v s = out at hs ⊢
  obtain ⟨⟨v', go⟩, s'⟩ := out
  cases go with
  | true => exact (hsecond v' s').trans hs
  | false => exact hs

/-- A step that only looks leaves everything. -/
theorem leaves_of_still {step : Step σ} (h : ∀ v s, (step v s).2 = s) : step.Leaves bytes :=
  fun v s => congrArg bytes (h v s)

namespace Harmless

/-- Preparing a harmless exercise leaves the record alone. -/
theorem prepareStep (h : Harmless host r e bytes) : (prepareStep host r e).Leaves bytes := by
  -- The toolchain's file is written only where it is missing.
  have hscaffold : (Runner.scaffold host r.toolchain e.dir e.name).Leaves bytes := by
    intro s
    unfold Runner.scaffold
    split
    · rfl
    · rename_i file hfile
      dsimp only
      split
      · rfl
      · split
        · rename_i hwrite
          exact (h.scaffold hfile).eq hwrite
        · rename_i hwrite
          exact (h.scaffold hfile).eq hwrite
  intro v s
  unfold Runner.prepareStep Runner.prepare
  rcases hdirs : host.makeDirs r.artifactDir s with ⟨_ | _, t⟩
  · exact h.makeDirs.eq hdirs
  · dsimp only
    rcases hfile : Runner.scaffold host r.toolchain e.dir e.name t with ⟨_ | _, u⟩
    · exact (hscaffold.eq hfile).trans (h.makeDirs.eq hdirs)
    · exact (hscaffold.eq hfile).trans (h.makeDirs.eq hdirs)

/-- A phase that runs a command of the toolchain, whatever it makes of the run. -/
theorem reportStep (h : Harmless host r e bytes) {template : String}
    {report : CommandRun → PhaseReport} {failure : CommandRun → String}
    (htemplate : template ∈ [r.toolchain.build, r.toolchain.run, r.toolchain.test]) :
    (reportStep host r e template report failure).Leaves bytes := by
  have hexecute : (Runner.execute host r e template).Leaves bytes := by
    intro s
    unfold Runner.execute
    dsimp only
    split
    · rename_i hrun
      exact (h.execute htemplate).eq hrun
    · rename_i hrun
      exact (h.execute htemplate).eq hrun
  intro v s
  unfold Runner.reportStep
  rcases hrun : Runner.execute host r e template s with ⟨_ | _, t⟩
  · exact hexecute.eq hrun
  · exact hexecute.eq hrun

/-- The rules look at the source, and every other mode runs a command or nothing. -/
theorem modeStep (h : Harmless host r e bytes) : (modeStep host r e).Leaves bytes := by
  unfold Runner.modeStep
  cases e.validation.mode with
  | build => exact leaves_of_still fun _ _ => rfl
  | run expected => exact h.reportStep (by simp)
  | test =>
      intro v s
      change bytes (testStep host r e v s).2 = bytes s
      unfold testStep
      split
      · exact h.reportStep (by simp) v s
      · rfl
  | static id =>
      refine leaves_of_still fun v s => ?_
      change (staticStep host r e id v s).2 = s
      unfold staticStep
      repeat' split
      all_goals rfl

/-- A validation leaves the bytes, however it ends. -/
theorem validate (h : Harmless host r e bytes) (s : σ) :
    bytes (validate host r e s).2 = bytes s := by
  have hrequired : (requiredStep host e).Leaves bytes := by
    refine leaves_of_still fun v s => ?_
    unfold requiredStep
    dsimp only
    split
    · rfl
    · rfl
  have htodo : (todoStep host e).Leaves bytes := by
    refine leaves_of_still fun v s => ?_
    unfold todoStep
    split
    · rfl
    · dsimp only
      split
      · rfl
      · rfl
  have hsteps : (steps host r e).Leaves bytes :=
    h.prepareStep.andThen <| hrequired.andThen <|
      Step.Leaves.andThen (h.reportStep (by simp)) <| h.modeStep.andThen htodo
  exact hsteps (Verdict.start e.name) s

end Harmless
end Runner
end Trainer
