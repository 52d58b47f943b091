import Mathlib
import Trainer.Dashboard
import Trainer.Proofs.Session.Unsaved

/-!
# The result panel

A session keeps one verdict, that of the run that was over last, while the learner goes from one
exercise to another and back.  `panel_shows_current` says that the panel never shows the verdict of
another exercise: it shows a verdict exactly if no run of the current exercise is in flight and the
run that was over last was one of it.

## The argument

* Only the end of a run changes the verdict that is kept (`latest_update`).  So it is the verdict of
  the last of the turns that ended a run (`Reached.latest_eq`), whatever keys, events and runs that
  began have come since.
* Verdicts are named after their exercises (`Message.isSigned`), so the session can tell whether the
  verdict is one of the current exercise (`lastVerdict_eq_some_iff`).
* The run in flight is the one that `running` names (`Tracks.running_iff`).
-/

namespace Trainer

open Session

namespace Message

/-- The run that a message says is over: the name of its exercise and its verdict. -/
def finished? : Message → Option (String × Verdict)
  | .runFinished name v => some (name, v)
  | _ => none

/-- Whether a verdict that the message brings is named after the exercise that was run. -/
def isSigned (m : Message) : Bool :=
  m.finished?.all fun x => x.2.exercise == x.1

end Message

namespace Session

variable {σ : Type} {store : ProgressStore σ} {s : Session} {h : σ}

/-! ## The verdict that is kept -/

theorem scheduleRun_latest (s : Session) : s.scheduleRun.1.latest = s.latest := by
  unfold scheduleRun
  split <;> rfl

theorem moveTo_latest (i : Nat) : (moveTo store i s h).1.1.latest = s.latest := by
  simp only [moveTo]
  split
  · rw [scheduleRun_latest]
  · rw [scheduleRun_latest]

theorem act_latest (a : Action) : (act store a s h).1.1.latest = s.latest := by
  cases a with
  | next =>
      simp only [act, goNext]
      split
      · split
        · exact moveTo_latest (s.current + 1)
        · rfl
      · rfl
  | previous =>
      simp only [act, goBack]
      split
      · split
        · exact moveTo_latest (s.current - 1)
        · rfl
      · rfl
  | select =>
      simp only [act, select]
      split
      · exact moveTo_latest (s := { s with view := .main }) s.cursor
      · rfl
  | run =>
      simp only [act]
      split <;> rfl
  | toggleList =>
      simp only [act]
      split <;> rfl
  | cursorUp =>
      simp only [act]
      split <;> rfl
  | cursorDown =>
      simp only [act]
      split <;> rfl
  | quit => rfl
  | toggleHint => rfl
  | dismiss => rfl

/-- The verdict that is kept is the one that the message brings, or else stays. -/
theorem latest_update (m : Message) :
    (update store m s h).1.1.latest = (m.finished?.map (·.2)).or s.latest := by
  cases m with
  | key a => exact act_latest a
  | runFinished name v =>
      simp only [update, finishRun]
      split <;> rfl
  | fileChanged e =>
      simp only [update]
      split
      · exact scheduleRun_latest s
      · rfl
  | tick => rfl
  | runStarted name => rfl
  | watchError error => rfl
  | watcherClosed => rfl

end Session

namespace EventLoop

/-- The run that was over last: the name of its exercise and its verdict. -/
def lastFinished (turns : List Turn) : Option (String × Verdict) :=
  turns.findSome? fun t => t.message.finished?

variable {σ : Type} {store : ProgressStore σ} {c : Catalog} {extension : String}
  {turns : List Turn} {l : EventLoop}

/-- The last verdict of a session is that of the last run that is over. -/
theorem Reached.latest_eq (hl : Reached store c extension turns l) :
    l.session.latest = (lastFinished turns).map (·.2) := by
  induction hl with
  | start => rfl
  | @step turns l l' t _ ht ih =>
      cases ht with
      | @take m left h hdue =>
          have hupdate : (turn store l.session m h).after.latest =
              (m.finished?.map (·.2)).or l.session.latest := latest_update m
          rw [hupdate, ih, lastFinished, lastFinished, List.findSome?_cons]
          cases hm : m.finished? with
          | none => simp [turn, hm]
          | some x => simp [turn, hm]

/-- The session shows a verdict just if the run that was over last was one of its exercise. -/
theorem lastVerdict_eq_some_iff (hl : Reached store c extension turns l)
    (hsigned : ∀ t ∈ turns, t.message.isSigned = true) {v : Verdict} :
    l.session.lastVerdict = some v ↔
      lastFinished turns = some (l.session.currentExercise.name, v) := by
  rw [lastVerdict, hl.latest_eq]
  cases hlast : lastFinished turns with
  | none => simp
  | some x =>
      obtain ⟨name, w⟩ := x
      obtain ⟨t, ht, hfinished⟩ := List.exists_of_findSome?_eq_some hlast
      have hname : w.exercise = name := by
        have hown := hsigned t ht
        rw [Message.isSigned, hfinished] at hown
        simpa using hown
      simp only [Option.map_some, Option.filter_eq_some_iff, Option.some.injEq, beq_iff_eq,
        Prod.mk.injEq]
      constructor
      · rintro ⟨rfl, hcurrent⟩
        exact ⟨hname ▸ hcurrent, rfl⟩
      · rintro ⟨hcurrent, rfl⟩
        exact ⟨rfl, hname.trans hcurrent⟩

end EventLoop

/-! ## The panel -/

namespace Dashboard

/-- What stands at the beginning of some lines. -/
def opening? (lines : List Line) : Option Span :=
  lines.head?.bind (·.head?)

/-- What is said while an exercise is being checked. -/
def checkingLines (s : Session) (name : String) : List Line :=
  [Line.of (spinnerAt s.spinner ++ " Checking " ++ name ++ "...") Style.running]

/-- What is said of an exercise that was not checked. -/
def uncheckedLines : List Line :=
  [Line.of "Not checked yet. Save the file or press r." Style.dimmed]

/-- While a run is going on, the panel opens with the name being checked. -/
@[simp] theorem opening?_checkingLines (s : Session) (name : String) :
    opening? (checkingLines s name) =
      some ⟨spinnerAt s.spinner ++ " Checking " ++ name ++ "...", Style.running⟩ := rfl

/-- Before the first run, the panel says that nothing was checked. -/
@[simp] theorem opening?_uncheckedLines :
    opening? uncheckedLines =
      some ⟨"Not checked yet. Save the file or press r.", Style.dimmed⟩ := rfl

/-- After a run, the panel opens with the verdict. -/
@[simp] theorem opening?_verdictLines (v : Verdict) :
    opening? (verdictLines v) =
      some (if v.success then ⟨"PASSED", Style.passed⟩ else ⟨"FAILED", Style.failed⟩) := rfl

/-- Lines that begin in different styles are different. -/
theorem ne_of_opening? {ls ks : List Line}
    (h : (opening? ls).map (·.style) ≠ (opening? ks).map (·.style)) : ls ≠ ks :=
  fun heq => h (congrArg (fun ls => (opening? ls).map (·.style)) heq)

theorem checkingLines_ne_uncheckedLines (s : Session) (name : String) :
    checkingLines s name ≠ uncheckedLines := by
  apply ne_of_opening?
  simp [Style.running, Style.dimmed, Style.colored]

theorem verdictLines_ne_checkingLines (v : Verdict) (s : Session) (name : String) :
    verdictLines v ≠ checkingLines s name := by
  apply ne_of_opening?
  cases hv : v.success <;> simp [hv, Style.passed, Style.failed, Style.running, Style.colored]

theorem verdictLines_ne_uncheckedLines (v : Verdict) : verdictLines v ≠ uncheckedLines := by
  apply ne_of_opening?
  cases hv : v.success <;> simp [hv, Style.passed, Style.failed, Style.dimmed, Style.colored]

end Dashboard

namespace EventLoop

open Dashboard

variable {σ : Type} {store : ProgressStore σ} {c : Catalog} {extension : String}
  {turns : List Turn} {l : EventLoop}

/-- Whether a run of the current exercise is asked for and not over. -/
def Checking (l : EventLoop) : Prop :=
  ∃ f ∈ l.flights, f.exercise.name = l.session.currentExercise.name

/-- What the result panel shows, by the run in flight and the turns so far. -/
inductive Shown (turns : List Turn) (l : EventLoop) : List Line → Prop where
  | checking : l.Checking →
      Shown turns l (checkingLines l.session l.session.currentExercise.name)
  | verdict (v : Verdict) : ¬ l.Checking →
      lastFinished turns = some (l.session.currentExercise.name, v) →
      Shown turns l (verdictLines v)
  | unchecked : ¬ l.Checking →
      (∀ v, lastFinished turns ≠ some (l.session.currentExercise.name, v)) →
      Shown turns l uncheckedLines

/-- The lines of the panel are those of the case that holds. -/
theorem shown_result (hl : Reached store c extension turns l)
    (hsigned : ∀ t ∈ turns, t.message.isSigned = true) :
    Shown turns l (result l.session).lines := by
  have hchecking : l.session.running = some l.session.currentExercise.name ↔ l.Checking :=
    hl.tracks.running_iff _
  simp only [result, resultLines, resultView]
  split_ifs with hrun
  · exact .checking (hchecking.1 hrun)
  · have hidle : ¬ l.Checking := fun h => hrun (hchecking.2 h)
    cases hv : l.session.lastVerdict with
    | none =>
        refine .unchecked hidle fun v hlast => ?_
        rw [(lastVerdict_eq_some_iff hl hsigned).2 hlast] at hv
        cases hv
    | some v => exact .verdict v hidle ((lastVerdict_eq_some_iff hl hsigned).1 hv)

/--
The result panel never shows the verdict of another exercise.  It begins with `PASSED` or `FAILED`
exactly if no run of the current exercise is in flight and the run that was over last was a run of
it that succeeded or failed, and then it shows the verdict of this run.  It shows that the exercise
is being checked exactly if a run of it is in flight, and otherwise that it was not checked.
-/
theorem panel_shows_current (hl : Reached store c extension turns l)
    (hsigned : ∀ t ∈ turns, t.message.isSigned = true) :
    (opening? (result l.session).lines = some ⟨"PASSED", Style.passed⟩ ↔ ¬ l.Checking ∧
      ∃ v, lastFinished turns = some (l.session.currentExercise.name, v) ∧ v.success = true) ∧
    (opening? (result l.session).lines = some ⟨"FAILED", Style.failed⟩ ↔ ¬ l.Checking ∧
      ∃ v, lastFinished turns = some (l.session.currentExercise.name, v) ∧ v.success = false) ∧
    ((result l.session).lines = checkingLines l.session l.session.currentExercise.name ↔
      l.Checking) ∧
    ((result l.session).lines = uncheckedLines ↔ ¬ l.Checking ∧
      ∀ v, lastFinished turns ≠ some (l.session.currentExercise.name, v)) ∧
    (∀ v, ¬ l.Checking → lastFinished turns = some (l.session.currentExercise.name, v) →
      (result l.session).lines = verdictLines v) := by
  have hshown := shown_result hl hsigned
  generalize (result l.session).lines = lines at hshown
  cases hshown with
  | checking hbusy =>
      simp [hbusy, checkingLines_ne_uncheckedLines, Style.running, Style.passed, Style.failed,
        Style.colored]
  | verdict v hidle hlast =>
      have hfound (w : Verdict) : lastFinished turns = some (l.session.currentExercise.name, w) ↔
          v = w := by simp [hlast]
      simp [hidle, hfound, verdictLines_ne_checkingLines, verdictLines_ne_uncheckedLines]
  | unchecked hidle hnone =>
      simp [hidle, hnone, (checkingLines_ne_uncheckedLines _ _).symm, Style.dimmed, Style.passed,
        Style.failed, Style.colored]

/-! ## A run of another exercise is in flight -/

/-- A run of the first exercise that has passed. -/
def passedFirst : Verdict :=
  ((Verdict.start "first").addPhase ⟨.build, true, "", false, Duration.zero⟩).finish Duration.zero

/-- The first exercise passes; the learner goes on, which starts a run, and comes back. -/
theorem reached_back :
    ∃ turns l, Reached forgetful twoExercises "sh" turns l ∧
      (∀ t ∈ turns, t.message.isSigned = true) ∧
      l.session.running = some "second" ∧ l.session.currentExercise.name = "first" ∧
      lastFinished turns = some ("first", passedFirst) := by
  have hchecked : Reached forgetful twoExercises "sh" _ _ :=
    .step (.step .start (.take () (.begun [] [] twoExercises.exercises[0])))
      (.take () (.ended [] [] twoExercises.exercises[0] passedFirst))
  have hback : Reached forgetful twoExercises "sh" _ _ :=
    .step (.step (.step hchecked (.take () (.other (m := .key .dismiss) rfl)))
      (.take () (.other (m := .key .next) rfl))) (.take () (.other (m := .key .previous) rfl))
  exact ⟨_, _, hback, by decide +kernel, by decide +kernel, by decide +kernel, by decide +kernel⟩

theorem panel_shows_current_back :
    ∃ turns l, Reached forgetful twoExercises "sh" turns l ∧
      (∀ t ∈ turns, t.message.isSigned = true) ∧
      l.session.running = some "second" ∧ ¬ l.Checking ∧
      opening? (result l.session).lines = some ⟨"PASSED", Style.passed⟩ ∧
      (result l.session).lines = verdictLines passedFirst := by
  obtain ⟨turns, l, hl, hsigned, hrun, hcurrent, hlast⟩ := reached_back
  have hpanel := panel_shows_current hl hsigned
  have hidle : ¬ l.Checking := by
    rw [Checking, ← hl.tracks.running_iff, hrun, hcurrent]
    decide
  rw [← hcurrent] at hlast
  exact ⟨turns, l, hl, hsigned, hrun, hidle, hpanel.1.2 ⟨hidle, passedFirst, hlast, rfl⟩,
    hpanel.2.2.2.2 passedFirst hidle hlast⟩

end EventLoop
end Trainer
