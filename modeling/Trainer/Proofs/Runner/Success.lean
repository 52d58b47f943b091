import Mathlib
import Trainer.Runner
import Trainer.Proofs.Marker

/-!
# When a validation succeeds

The verdict on an exercise is computed step by step, and a failure may be noted in several ways:
a message, a phase that did not pass, or both.  Here the verdict is tied to what really happened.

## The argument

* A step *decides* a relation between the states of the machine before and after it when it goes on
  exactly in the states so related, keeps a clean verdict clean when it goes on, and leaves a
  message when it does not (`Decides`).  Steps in a row decide the composed relation
  (`Decides.andThen`).
* Each step decides what it is there for: `Prepared`, `RequiredThere`, a command that ended well,
  `ModeHolds`, `SourceDone`.
* The last step that goes on leaves a phase behind (`LeavesPhase`), so a validation that went
  through to its end is a success and no other one is (`success_iff`).
-/

namespace Trainer

/-- A run that ended within its time limit with exit code zero. -/
def CommandRun.CleanExit (run : CommandRun) : Prop :=
  run.timedOut = false ∧ run.exitCode = some 0

/-- A command succeeds if it ends in time with exit code zero. -/
theorem CommandRun.success_iff (run : CommandRun) : run.success = true ↔ run.CleanExit := by
  simp [success, CleanExit]

namespace Verdict

/-- Nothing has failed so far. -/
def Clean (v : Verdict) : Prop :=
  v.error = none ∧ ∀ p ∈ v.phases, p.success = true

theorem clean_start (name : String) : (start name).Clean := by
  simp [Clean, start]

theorem Clean.addPhase {v : Verdict} {p : PhaseReport} (hv : v.Clean) (hp : p.success = true) :
    (v.addPhase p).Clean := by
  refine ⟨hv.1, fun q hq => ?_⟩
  rcases List.mem_append.1 hq with hq | hq
  · exact hv.2 q hq
  · rw [List.mem_singleton.1 hq]
    exact hp

theorem isSome_error_fail (v : Verdict) (message : String) :
    (v.fail message).error.isSome = true := by
  simp [fail]

/-- A verdict with a message is sealed as a failure. -/
theorem success_finish_of_error {v : Verdict} (h : v.error.isSome = true) (d : Duration) :
    (v.finish d).success = false := by
  cases herr : v.error with
  | none => simp [herr] at h
  | some message => simp [finish, herr]

/-- A clean verdict on something that ran is sealed as a success. -/
theorem Clean.success_finish {v : Verdict} (hv : v.Clean) (hne : v.phases ≠ []) (d : Duration) :
    (v.finish d).success = true := by
  simp only [finish, hv.1, Option.isNone_none, Bool.true_and, Bool.and_eq_true,
    Bool.not_eq_true', List.isEmpty_eq_false_iff, List.all_eq_true]
  exact ⟨hne, hv.2⟩

end Verdict

namespace Runner

variable {σ : Type}

/-! ## Steps that decide something -/

/-- What a step that started from `v` came to, where `holds` tells the states it may lead to. -/
inductive Decided (holds : σ → Prop) (v : Verdict) : (Verdict × Bool) × σ → Prop where
  | goesOn {v' : Verdict} {s' : σ} : (v.Clean → v'.Clean) → (∀ t, holds t ↔ t = s') →
      Decided holds v ((v', true), s')
  | stops {v' : Verdict} {s' : σ} : v'.error.isSome = true → (∀ t, ¬ holds t) →
      Decided holds v ((v', false), s')

/-- A step decides a relation between the states before and after it. -/
def Decides (step : Step σ) (holds : σ → σ → Prop) : Prop :=
  ∀ v s, Decided (holds s) v (step v s)

/-- Steps in a row decide the composed relation. -/
theorem Decides.andThen {first second : Step σ} {P Q : σ → σ → Prop} (hfirst : Decides first P)
    (hsecond : Decides second Q) :
    Decides (first.andThen second) fun s s' => ∃ t, P s t ∧ Q t s' := by
  intro v s
  have h₁ := hfirst v s
  unfold Step.andThen
  generalize first v s = out at h₁ ⊢
  cases h₁ with
  | stops herr hP => exact .stops herr (by simp [hP])
  | @goesOn v₁ s₁ hclean₁ hP =>
      have h₂ := hsecond v₁ s₁
      dsimp only
      generalize second v₁ s₁ = out at h₂ ⊢
      cases h₂ with
      | stops herr hQ => exact .stops herr (by simp [hP, hQ])
      | goesOn hclean₂ hQ =>
          exact .goesOn (fun hv => hclean₂ (hclean₁ hv)) (by simp [hP, hQ])

/-- A step that goes on leaves a phase behind. -/
def LeavesPhase (step : Step σ) : Prop :=
  ∀ v s, (step v s).1.2 = true → (step v s).1.1.phases ≠ []

theorem LeavesPhase.andThen {first second : Step σ} (h : LeavesPhase second) :
    LeavesPhase (first.andThen second) := by
  intro v s
  unfold Step.andThen
  rcases first v s with ⟨⟨v', b⟩, s'⟩
  cases b with
  | true => exact h v' s'
  | false => exact fun hgo => absurd hgo (by simp)

/-! ## What the steps are there for -/

section Conditions

variable (host : Host σ) (r : Runner) (e : Exercise)

/-- The toolchain's file for an exercise is not wanted, is there, or could be written. -/
inductive ScaffoldReady (s : σ) : σ → Prop where
  | unwanted : r.toolchain.scaffold = none → ScaffoldReady s s
  | present {file : Scaffold} : r.toolchain.scaffold = some file →
      host.exists? (e.dir.join file.file) s = true → ScaffoldReady s s
  | written {file : Scaffold} {s' : σ} : r.toolchain.scaffold = some file →
      host.exists? (e.dir.join file.file) s = false →
      host.writeText (e.dir.join file.file) (Toolchain.scaffoldContents file e.name) s =
        (.ok (), s') →
      ScaffoldReady s s'

/-- The directory of built programs and the toolchain's file are there or could be made. -/
def Prepared (s s' : σ) : Prop :=
  ∃ t, host.makeDirs r.artifactDir s = (.ok (), t) ∧ ScaffoldReady host r e t s'

def RequiredThere (s : σ) : Prop :=
  ∀ f ∈ e.validation.requiredFiles, host.exists? (e.dir.join f) s = true

/-- A command line of the toolchain could be spawned in the directory of the exercise. -/
def Ended (template : String) (s : σ) (run : CommandRun) (s' : σ) : Prop :=
  host.execute (Toolchain.render template (r.context e)) e.dir (r.timeoutFor e) s = (.ok run, s')

/-- What the mode of an exercise asks for, once the build is done. -/
def ModeHolds (s s' : σ) : Prop :=
  match e.validation.mode with
  | .build => s' = s
  | .test =>
      host.isFile (r.testPath e) s = true ∧
        ∃ run, Ended host r e r.toolchain.test s run s' ∧ run.CleanExit
  | .run (some expected) =>
      ∃ run, Ended host r e r.toolchain.run s run s' ∧ run.timedOut = false ∧
        Text.trim run.combined = Text.trim expected
  | .run none => ∃ run, Ended host r e r.toolchain.run s run s' ∧ run.CleanExit
  | .static id =>
      s' = s ∧ ∃ check outcome, r.checks.get? id = some check ∧
        check.check host e.sourcePath s = .ok outcome ∧ outcome.passed = true

/-- The source can be read as text and is free of markers. -/
def SourceDone (s : σ) : Prop :=
  ∃ content, host.readText e.sourcePath s = .ok content ∧ Marker.Free content

end Conditions

variable {host : Host σ} {r : Runner} {e : Exercise}

/-! ## Preparation -/

/-- The scaffold step succeeds in just the states that are ready for it. -/
theorem scaffold_eq_ok_iff {s s' : σ} :
    (∃ made, scaffold host r.toolchain e.dir e.name s = (.ok made, s')) ↔
      ScaffoldReady host r e s s' := by
  constructor
  · rintro ⟨made, h⟩
    unfold scaffold at h
    split at h
    · rename_i hnone
      cases h
      exact .unwanted hnone
    · rename_i file hfile
      dsimp only at h
      split at h
      · rename_i hthere
        cases h
        exact .present hfile hthere
      · rename_i habsent
        split at h
        · rename_i t hwrite
          cases h
          exact .written hfile (by simpa using habsent) hwrite
        · cases h
  · intro h
    cases h with
    | unwanted hnone => exact ⟨false, by simp [scaffold, hnone]⟩
    | present hfile hthere => exact ⟨false, by simp [scaffold, hfile, hthere]⟩
    | written hfile habsent hwrite =>
        exact ⟨true, by simp [scaffold, hfile, habsent, hwrite]⟩

/-- The preparation succeeds in just the states that are ready for it. -/
theorem prepare_eq_ok_iff {s s' : σ} :
    prepare host r e s = (.ok (), s') ↔ Prepared host r e s s' := by
  unfold Prepared prepare
  rcases hdirs : host.makeDirs r.artifactDir s with ⟨_ | _, t⟩
  · simp
  -- The directory is there, and the toolchain's file decides.
  · simp only [Prod.mk.injEq, true_and, exists_eq_left']
    rw [← scaffold_eq_ok_iff]
    rcases scaffold host r.toolchain e.dir e.name t with ⟨_ | _, u⟩
    · simp
    · simp

/-- The step that prepares goes on if the preparation succeeds. -/
theorem prepareStep_decides : Decides (prepareStep host r e) (Prepared host r e) := by
  intro v s
  have hiff (t : σ) : Prepared host r e s t ↔ prepare host r e s = (.ok (), t) :=
    prepare_eq_ok_iff.symm
  unfold prepareStep
  rcases hprep : prepare host r e s with ⟨_ | _, s₁⟩
  · exact .stops (v.isSome_error_fail _) (by simp [hiff, hprep])
  · exact .goesOn id (by simp [hiff, hprep, eq_comm])

/-! ## Required files -/

/-- No required file is missing if all of them are there. -/
theorem missingFiles_eq_nil_iff {s : σ} :
    missingFiles host e s = [] ↔ RequiredThere host e s := by
  simp [missingFiles, RequiredThere]

/-- The step that asks for the required files goes on if they are there. -/
theorem requiredStep_decides :
    Decides (requiredStep host e) fun s s' => s' = s ∧ RequiredThere host e s := by
  intro v s
  simp only [requiredStep, ← missingFiles_eq_nil_iff]
  cases missingFiles host e s with
  | nil => exact .goesOn id (by simp)
  | cons f rest => exact .stops (v.isSome_error_fail _) (by simp)

/-! ## Commands -/

theorem record_of_success (v : Verdict) {report : PhaseReport} (failure : String)
    (limit : Duration) (htime : report.timedOut = false) (hs : report.success = true) :
    record v report failure limit = (v.addPhase report, true) := by
  simp [record, htime, hs]

/-- A phase that did not pass leaves a message and stops the validation. -/
theorem record_of_failure (v : Verdict) {report : PhaseReport} (failure : String)
    (limit : Duration) (hs : report.success = false) :
    ∃ v', record v report failure limit = (v', false) ∧ v'.error.isSome = true := by
  -- A run out of time is told of in other words, but stops just as well.
  cases htime : report.timedOut with
  | true =>
      refine ⟨_, ?_, (v.addPhase report).isSome_error_fail
        (report.phase.label ++ " timed out after " ++ limit.render)⟩
      simp [record, htime, hs]
  | false =>
      refine ⟨_, ?_, (v.addPhase report).isSome_error_fail failure⟩
      simp [record, htime, hs]

/-- A command gives a result if its template has one and the shell could be run. -/
theorem execute_eq_ok_iff {template : String} {s s' : σ} {run : CommandRun} :
    execute host r e template s = (.ok run, s') ↔ Ended host r e template s run s' := by
  unfold Ended
  rcases hexec : host.execute (Toolchain.render template (r.context e)) e.dir (r.timeoutFor e) s
    with ⟨_ | _, s₁⟩
  · simp [execute, hexec]
  · simp [execute, hexec]

/-- A phase that runs a command and reports on the run. -/
def reportStep (host : Host σ) (r : Runner) (e : Exercise) (template : String)
    (report : CommandRun → PhaseReport) (failure : CommandRun → String) : Step σ := fun v s =>
  match execute host r e template s with
  | (.error f, s) => ((v.fail f.message, false), s)
  | (.ok run, s) => (record v (report run) (failure run) (r.timeoutFor e), s)

/-- Such a phase decides whether the command ends in a run that it reports as a success. -/
theorem reportStep_decides {template : String} {report : CommandRun → PhaseReport}
    {failure : CommandRun → String}
    (htime : ∀ run, (report run).success = true → (report run).timedOut = false) :
    Decides (reportStep host r e template report failure) fun s s' =>
      ∃ run, Ended host r e template s run s' ∧ (report run).success = true := by
  intro v s
  simp only [reportStep, ← execute_eq_ok_iff]
  rcases execute host r e template s with ⟨_ | run, s₁⟩
  · exact .stops (v.isSome_error_fail _) (by simp)
  · cases hs : (report run).success with
    | true =>
        simp only [record_of_success v _ _ (htime run hs) hs]
        exact .goesOn (fun hv => hv.addPhase hs) fun t => by simp [hs, @eq_comm _ s₁]
    | false =>
        obtain ⟨v₁, hrecord, herr⟩ := record_of_failure v (failure run) (r.timeoutFor e) hs
        simp only [hrecord]
        exact .stops herr (by simp [hs])

/-- A phase that passes when its command does decides whether the command ends well. -/
theorem commandStep_decides {phase : Phase} {template failure : String} :
    Decides (commandStep host r e phase template failure) fun s s' =>
      ∃ run, Ended host r e template s run s' ∧ run.CleanExit := by
  let report (run : CommandRun) : PhaseReport :=
    ⟨phase, run.success, run.combined, run.timedOut, run.elapsed⟩
  have h : Decides (reportStep host r e template report fun _ => failure) fun s s' =>
      ∃ run, Ended host r e template s run s' ∧ run.success = true :=
    reportStep_decides fun run hs => ((run.success_iff).1 hs).1
  simp only [CommandRun.success_iff] at h
  exact h

/-! ## The mode of an exercise -/

/-- The phase of a run succeeds by its exit code, or by its output if one is expected. -/
theorem runReport_success_iff (expected : Option String) (run : CommandRun) :
    (runReport expected run).success = true ↔
      match expected with
      | some text => run.timedOut = false ∧ Text.trim run.combined = Text.trim text
      | none => run.CleanExit := by
  cases expected with
  | none => exact run.success_iff
  | some text => simp [runReport, outputMatches]

/-- The step that runs the artifact goes on if the run gives what is expected. -/
theorem runStep_decides (expected : Option String) :
    Decides (runStep host r e expected) fun s s' =>
      ∃ run, Ended host r e r.toolchain.run s run s' ∧
        (runReport expected run).success = true := by
  refine reportStep_decides (fun run hs => ?_)
  rw [runReport_success_iff] at hs
  cases expected with
  | none => exact hs.1
  | some text => exact hs.1

/-- The step that tests goes on if there is a test file and its command ends without complaint. -/
theorem testStep_decides :
    Decides (testStep host r e) fun s s' =>
      host.isFile (r.testPath e) s = true ∧
        ∃ run, Ended host r e r.toolchain.test s run s' ∧ run.CleanExit := by
  intro v s
  unfold testStep
  split
  · rename_i hfile
    simpa only [hfile, true_and] using commandStep_decides v s
  · rename_i hfile
    exact .stops (v.isSome_error_fail _) (by simp [hfile])

/-- The step that checks the source goes on if its check exists, can be made, and passes. -/
theorem staticStep_decides (id : String) :
    Decides (staticStep host r e id) fun s s' =>
      s' = s ∧ ∃ check outcome, r.checks.get? id = some check ∧
        check.check host e.sourcePath s = .ok outcome ∧ outcome.passed = true := by
  intro v s
  unfold staticStep
  cases hget : r.checks.get? id with
  | none => exact .stops (v.isSome_error_fail _) (by simp)
  | some check =>
      dsimp only
      cases hcheck : check.check host e.sourcePath s with
      | error cause => exact .stops (v.isSome_error_fail _) (by simp [hcheck])
      | ok outcome =>
          cases hpass : outcome.passed with
          | true =>
              simp only [hpass, if_true]
              exact .goesOn (fun hv => hv.addPhase rfl) (by simp [hcheck, hpass])
          | false =>
              simp only [hpass]
              exact .stops ((v.addPhase _).isSome_error_fail _) (by simp [hcheck, hpass])

/-- The phase of the mode decides what the mode asks for. -/
theorem modeStep_decides : Decides (modeStep host r e) (ModeHolds host r e) := by
  intro v s
  unfold modeStep ModeHolds
  cases e.validation.mode with
  | build => exact .goesOn id fun t => Iff.rfl
  | test => exact testStep_decides v s
  | static id => exact staticStep_decides id v s
  | run expected =>
      have hstep : Decides (runStep host r e expected) _ := runStep_decides expected
      have h := hstep v s
      simp only [runReport_success_iff] at h
      cases expected with
      | none => exact h
      | some text => exact h

/-! ## The source -/

/-- The step that looks for marks goes on if the source can be read and has none. -/
theorem todoStep_decides :
    Decides (todoStep host e) fun s s' => s' = s ∧ SourceDone host e s := by
  intro v s
  unfold todoStep SourceDone
  cases hread : host.readText e.sourcePath s with
  | error cause => exact .stops (v.isSome_error_fail _) (by simp [hread])
  | ok content =>
      cases hscan : Marker.scan content with
      | nil =>
          have hfree := (Marker.scan_eq_nil_iff content).1 hscan
          simp only [hscan, List.isEmpty_nil, if_true]
          refine .goesOn (fun hv => ?_) (by simp [hread, hfree])
          -- The output stays as it was, but the phases are those of a phase added.
          exact ⟨hv.1, (hv.addPhase (p := ⟨.todoScan, true, "", false, Duration.zero⟩) rfl).2⟩
      | cons m rest =>
          have hfree : ¬ Marker.Free content := by
            rw [← Marker.scan_eq_nil_iff, hscan]
            simp
          simp only [hscan, List.isEmpty_cons]
          exact .stops (by simp [Verdict.fail]) (by simp [hread, hfree])

/-- The scan for marks leaves a phase behind. -/
theorem todoStep_leavesPhase : LeavesPhase (todoStep host e) := by
  intro v s hgo
  unfold todoStep at hgo ⊢
  cases hread : host.readText e.sourcePath s with
  | error cause => simp [hread] at hgo
  | ok content =>
      dsimp only
      split
      · simp
      · simp [Verdict.fail]

/-! ## The validation -/

/-- The steps go on to their end exactly when everything that they are there for holds. -/
theorem steps_decide : Decides (steps host r e) fun s s' =>
    ∃ s₁, Prepared host r e s s₁ ∧ ∃ s₂, (s₂ = s₁ ∧ RequiredThere host e s₁) ∧
      ∃ s₃, (∃ run, Ended host r e r.toolchain.build s₂ run s₃ ∧ run.CleanExit) ∧
        ∃ s₄, ModeHolds host r e s₃ s₄ ∧ s' = s₄ ∧ SourceDone host e s₄ :=
  prepareStep_decides.andThen <| requiredStep_decides.andThen <|
    commandStep_decides.andThen <| modeStep_decides.andThen todoStep_decides

/-- Every validation that goes through has at least one phase. -/
theorem steps_leavePhase : LeavesPhase (steps host r e) :=
  todoStep_leavesPhase.andThen.andThen.andThen.andThen

/-- A step that decides a relation and leaves a phase is sealed as a success when it holds. -/
theorem Decides.success_finish_iff {step : Step σ} {holds : σ → σ → Prop}
    (h : Decides step holds) (hphase : LeavesPhase step) (name : String) (d : Duration) (s : σ) :
    ((step (Verdict.start name) s).1.1.finish d).success = true ↔ ∃ s', holds s s' := by
  have hd := h (Verdict.start name) s
  have hp := hphase (Verdict.start name) s
  generalize step (Verdict.start name) s = out at hd hp ⊢
  cases hd with
  | goesOn hclean hholds =>
      have hsucc := (hclean (Verdict.clean_start name)).success_finish (hp rfl) d
      simp [hsucc, hholds]
  | stops herr hholds =>
      simp [Verdict.success_finish_of_error herr d, hholds]

/--
A validation succeeds exactly when the places are ready, the required files are there, the build
ends well, the exercise's mode is satisfied, and the source is then free of markers.
-/
theorem success_validate_iff (host : Host σ) (r : Runner) (e : Exercise) (s : σ) :
    (validate host r e s).1.success = true ↔
      ∃ s₁ s₂ s₃, Prepared host r e s s₁ ∧ RequiredThere host e s₁ ∧
        (∃ build, Ended host r e r.toolchain.build s₁ build s₂ ∧ build.CleanExit) ∧
        ModeHolds host r e s₂ s₃ ∧ SourceDone host e s₃ := by
  have hphase : LeavesPhase (steps host r e) := steps_leavePhase
  have hiff := steps_decide.success_finish_iff hphase e.name
    (elapsed (steps host r e (Verdict.start e.name) s).1.1) s
  have hval : (validate host r e s).1 = (steps host r e (Verdict.start e.name) s).1.1.finish
      (elapsed (steps host r e (Verdict.start e.name) s).1.1) := rfl
  rw [hval, hiff]
  constructor
  · rintro ⟨s', s₁, hprep, s₂, ⟨rfl, hreq⟩, s₃, hbuild, s₄, hmode, -, hsource⟩
    exact ⟨s₂, s₃, s₄, hprep, hreq, hbuild, hmode, hsource⟩
  · rintro ⟨s₁, s₂, s₃, hprep, hreq, hbuild, hmode, hsource⟩
    exact ⟨s₃, s₁, hprep, s₁, ⟨rfl, hreq⟩, s₂, hbuild, s₃, hmode, rfl, hsource⟩

end Runner
end Trainer
