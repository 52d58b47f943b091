import Mathlib
import Trainer.Proofs.Mismatch
import Trainer.Proofs.Progress.Shelf
import Trainer.Proofs.Runner.WellFormed

/-!
# What a learner is told of a mismatch

A program that is built, runs in time and prints something else than is expected ends the
validation, and the report on the two outputs is the message of the verdict (`error_of_mismatch`).
The feedback has the message of a verdict in it, whatever else it adds
(`Verdict.error_infix_feedback`), so the learner gets the whole report.
-/

namespace Trainer

namespace Verdict

variable {v : Verdict} {message : String}

/-- The message of a verdict is part of its feedback. -/
theorem error_infix_feedback (h : v.error = some message) :
    message.toList <:+: v.feedback.toList := by
  rw [feedback, h]
  dsimp only
  split
  · exact List.infix_rfl
  · rw [String.toList_append, String.toList_append, List.append_assoc]
    exact (List.prefix_append _ _).isInfix

end Verdict

namespace Runner

variable {σ : Type} {host : Host σ} {r : Runner} {e : Exercise} {s s' : σ} {run : CommandRun}

/-! ## The steps before the run -/

/-- Everything was ready, the exercise was built, and its program came to an end within its time. -/
structure RanInTime (host : Host σ) (r : Runner) (e : Exercise) (s : σ) (run : CommandRun)
    (s' : σ) : Prop where
  built : ∃ s₁ s₂, Prepared host r e s s₁ ∧ RequiredThere host e s₁ ∧
    (∃ build, Ended host r e r.toolchain.build s₁ build s₂ ∧ build.CleanExit) ∧
    Ended host r e r.toolchain.run s₂ run s'
  inTime : run.timedOut = false

/-- In a place that is prepared, the validation goes on with the verdict it has. -/
theorem prepareStep_of_prepared (h : Prepared host r e s s') (v : Verdict) :
    prepareStep host r e v s = ((v, true), s') := by
  simp only [prepareStep, prepare_eq_ok_iff.2 h]

/-- If all required files are there, the validation goes on with the verdict it has. -/
theorem requiredStep_of_there (h : RequiredThere host e s) (v : Verdict) :
    requiredStep host e v s = ((v, true), s) := by
  simp only [requiredStep, missingFiles_eq_nil_iff.2 h, List.isEmpty_nil, if_true]

/-- A build that ends in time and without complaint adds a phase, and the validation goes on. -/
theorem buildStep_of_cleanExit (h : Ended host r e r.toolchain.build s run s')
    (hclean : run.CleanExit) (v : Verdict) :
    buildStep host r e v s =
      ((v.addPhase ⟨.build, true, run.combined, false, run.elapsed⟩, true), s') := by
  have hsuccess : run.success = true := run.success_iff.2 hclean
  simp only [buildStep, commandStep, execute_eq_ok_iff.2 h, hsuccess, hclean.1]
  rw [record_of_success _ _ _ rfl rfl]

/-! ## The run -/

variable {expected : String}

/-- A run that ends in time with another output stops the validation with the report. -/
theorem runStep_of_mismatch (h : Ended host r e r.toolchain.run s run s')
    (htime : run.timedOut = false) (hne : Text.trim expected ≠ Text.trim run.combined)
    {v : Verdict} (hv : v.error = none) :
    ∃ v', runStep host r e (some expected) v s = ((v', false), s') ∧
      v'.error = some (Mismatch.report expected run.combined) := by
  have hother : outputMatches expected run = false := by
    simpa [outputMatches] using Ne.symm hne
  have hfailed : (runReport (some expected) run).success = false := by
    simp [runReport, hother]
  have hmessage : runFailure (some expected) run = Mismatch.report expected run.combined := by
    unfold runFailure
    dsimp only
    rw [if_neg (by simp [htime, hother])]
  have htold : (runReport (some expected) run).timedOut = false := htime
  simp only [runStep, execute_eq_ok_iff.2 h, record_failed _ _ _ hfailed, htold, hmessage]
  exact ⟨_, rfl, by simp [Verdict.fail, Verdict.addPhase, hv]⟩

/-- The verdict on a program with another output than the expected one has the report. -/
theorem error_of_mismatch (hmode : e.validation.mode = .run (some expected))
    (hran : RanInTime host r e s run s')
    (hne : Text.trim expected ≠ Text.trim run.combined) :
    (validate host r e s).1.error = some (Mismatch.report expected run.combined) := by
  obtain ⟨s₁, s₂, hprepared, hrequired, ⟨build, hbuild, hclean⟩, hrun⟩ := hran.built
  have hmodeStep : modeStep host r e = runStep host r e (some expected) := by
    rw [modeStep, hmode]
  let v := (Verdict.start e.name).addPhase ⟨.build, true, build.combined, false, build.elapsed⟩
  have hv : v.error = none := rfl
  obtain ⟨v', hstop, herror⟩ := runStep_of_mismatch hrun hran.inTime hne hv
  have hsteps : steps host r e (Verdict.start e.name) s = ((v', false), s') := by
    rw [steps, Step.andThen_of_go (prepareStep_of_prepared hprepared _),
      Step.andThen_of_go (requiredStep_of_there hrequired _),
      Step.andThen_of_go (buildStep_of_cleanExit hbuild hclean _), hmodeStep,
      Step.andThen_of_stop hstop]
  rw [validate, hsteps]
  exact herror

/--
The report on two outputs that differ lists both of them and ends with a diff from which both can be
read off; and whenever a program is run in time and prints the one where the other is expected, the
verdict has the whole report, and so has the feedback that the learner is shown.
-/
theorem mismatch_told {expected actual : String} (hne : Text.trim expected ≠ Text.trim actual) :
    (∃ p : Mismatch.Parts, p.Faithful (Text.trim expected).toList (Text.trim actual).toList ∧
      (Mismatch.report expected actual).toList ++ ['\n'] = p.text) ∧
    ∀ {σ : Type} (host : Host σ) (r : Runner) (e : Exercise) (s s' : σ) (run : CommandRun),
      e.validation.mode = .run (some expected) → RanInTime host r e s run s' →
      run.combined = actual →
      (validate host r e s).1.error = some (Mismatch.report expected actual) ∧
        (Mismatch.report expected actual).toList <:+: (validate host r e s).1.feedback.toList := by
  refine ⟨Mismatch.exists_faithful hne, ?_⟩
  intro σ host r e s s' run hmode hran hactual
  subst hactual
  have herror := error_of_mismatch hmode hran hne
  exact ⟨herror, Verdict.error_infix_feedback herror⟩

/-! ## A greeting -/

/-- What a program has printed that greets the world over three lines. -/
def greeting : CommandRun := ⟨some 0, false, "Hello,\n\nWorld!\n", "", Duration.zero⟩

/-- A machine with files in memory, where every command prints the greeting. -/
def greetingHost : Host Shelf :=
  { Shelf.host ⟨2024, 5, 17, 8, 30, 0, 0⟩ with execute := fun _ _ _ s => (.ok greeting, s) }

/-- An exercise that asks for a greeting on one line. -/
def greetingExercise : Exercise :=
  { (default : Exercise) with
    name := "hello"
    sourcePath := ⟨"/kata/exercises/hello.go"⟩
    validation := ⟨.run (some "Hello, World!"), none, []⟩ }

/-- A runner whose toolchain has no file of its own. -/
def greetingRunner : Runner :=
  { (default : Runner) with toolchain := { Toolchain.standard with scaffold := none } }

theorem ranInTime_greeting (s : Shelf) :
    RanInTime greetingHost greetingRunner greetingExercise s greeting s where
  built := by
    refine ⟨s, s, ⟨s, rfl, .unwanted rfl⟩, fun f hf => ?_, ⟨greeting, rfl, rfl, rfl⟩, rfl⟩
    cases hf
  inTime := rfl

/-- The learner is told of a greeting that was broken off in the middle of a line. -/
theorem mismatch_told_greeting :
    Text.trim "Hello, World!" ≠ Text.trim "Hello,\n\nWorld!\n" ∧
    RanInTime greetingHost greetingRunner greetingExercise ⟨[], [], false⟩ greeting
      ⟨[], [], false⟩ ∧
    (Mismatch.report "Hello, World!" "Hello,\n\nWorld!\n").toList <:+:
      (validate greetingHost greetingRunner greetingExercise ⟨[], [], false⟩).1.feedback.toList := by
  have hne : Text.trim "Hello, World!" ≠ Text.trim "Hello,\n\nWorld!\n" := by decide
  have hran := ranInTime_greeting ⟨[], [], false⟩
  have htold := (mismatch_told hne).2 greetingHost greetingRunner greetingExercise _ _ _ rfl hran rfl
  exact ⟨hne, hran, htold.2⟩

end Runner
end Trainer
