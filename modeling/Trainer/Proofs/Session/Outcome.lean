import Mathlib
import Trainer.Session
import Trainer.Proofs.Catalog.Changes

/-!
# What a message does to a session

A message can leave the run status alone, be told that a run has begun, have a run remembered, start
one, or end one.  `Outcome` lists these cases with the run status before and after and the runs that
are asked for; `update_outcome` says that there are no others.  Laws about the scheduling of runs
go through the cases and never unfold `update`.
-/

namespace Trainer

/-- The exercise whose run an effect asks for. -/
def Effect.run? : Effect → Option Exercise
  | .run e => some e
  | _ => none

/-- Whether a message tells of the progress of a run. -/
def Message.ofRun : Message → Bool
  | .runStarted _ => true
  | .runFinished _ _ => true
  | _ => false

namespace Session

/-- The runs that effects ask for. -/
def runs (effects : List Effect) : List Exercise :=
  effects.filterMap Effect.run?

@[simp] theorem runs_nil : runs [] = [] := rfl

@[simp] theorem runs_run (e : Exercise) : runs [.run e] = [e] := rfl

@[simp] theorem runs_quit : runs [.quit] = [] := rfl

@[simp] theorem runs_append_await (effects : List Effect) :
    runs (effects ++ [.awaitFileEvent]) = runs effects := by
  simp [runs, Effect.run?]

/--
Whether a message asks for an automatic run: it is an event that the session accepts, or it has led
to another exercise.
-/
def Triggers (s : Session) (m : Message) (s' : Session) : Prop :=
  (∃ e, m = .fileChanged e ∧ s.accepts e = true) ∨ s'.current ≠ s.current

/-- Word from a run is no trigger, if the current exercise stays. -/
theorem not_triggers_of_ofRun {s s' : Session} {m : Message} (hm : m.ofRun = true)
    (hcur : s'.current = s.current) : ¬ s.Triggers m s' := by
  rintro (⟨e, rfl, -⟩ | hmove)
  · cases hm
  · exact hmove hcur

/-! ## The cases -/

/-- The session after a message and the runs it asks for. -/
inductive Outcome (s : Session) (m : Message) : Session → List Exercise → Prop where
  /-- The run status is as before. -/
  | quiet {s' : Session} : m.ofRun = false → ¬ s.Triggers m s' → s'.running = s.running →
      s'.rerunPending = s.rerunPending → Outcome s m s' []
  /-- The session is told that a run has begun. -/
  | told {s' : Session} {name : String} : m = .runStarted name → s'.running = some name →
      s'.rerunPending = s.rerunPending → s'.current = s.current → Outcome s m s' []
  /-- An automatic run has to wait for the end of the run in flight. -/
  | remembered {s' : Session} : m.ofRun = false → s.Triggers m s' → s.running.isSome = true →
      s'.running = s.running → s'.rerunPending = true → Outcome s m s' []
  /-- A run starts at once. -/
  | launched {s' : Session} : m.ofRun = false → s.running = none →
      s'.running = some s'.currentExercise.name → s'.rerunPending = s.rerunPending →
      Outcome s m s' [s'.currentExercise]
  /-- A run is over, and no other one was asked for. -/
  | ended {s' : Session} {name : String} {v : Verdict} : m = .runFinished name v →
      s.rerunPending = false → s'.running = none → s'.rerunPending = false →
      s'.current = s.current → Outcome s m s' []
  /-- A run is over, and the one that was remembered starts. -/
  | again {s' : Session} {name : String} {v : Verdict} : m = .runFinished name v →
      s.rerunPending = true → s'.running = some s'.currentExercise.name →
      s'.rerunPending = false → s'.current = s.current → Outcome s m s' [s'.currentExercise]

/-- A session that differs from `s` in what does not concern runs asks for an automatic run. -/
theorem scheduleRun_outcome {s t : Session} {m : Message} (hm : m.ofRun = false)
    (hrun : t.running = s.running) (hpend : t.rerunPending = s.rerunPending)
    (htrig : (∃ e, m = .fileChanged e ∧ s.accepts e = true) ∨ t.current ≠ s.current) :
    Outcome s m t.scheduleRun.1 (runs t.scheduleRun.2) := by
  unfold scheduleRun
  split
  -- `t` is scheduled but the outcome is told of `s`, so the run status has to be carried over.
  case isTrue hbusy =>
    exact .remembered hm htrig (hrun ▸ hbusy) hrun rfl
  case isFalse hidle =>
    have hnone : s.running = none := by simpa [hrun] using hidle
    exact .launched hm hnone rfl hpend

variable {σ : Type} {store : ProgressStore σ} {s : Session} {h : σ}

/-- A session in which nothing but the view, the cursor or the messages shown have changed. -/
theorem quiet_outcome {s' : Session} {m : Message} (hm : m.ofRun = false)
    (hev : ∀ e, m = .fileChanged e → s.accepts e = false) (hcur : s'.current = s.current)
    (hrun : s'.running = s.running) (hpend : s'.rerunPending = s.rerunPending) :
    Outcome s m s' [] := by
  refine .quiet hm ?_ hrun hpend
  rintro (⟨e, he, hacc⟩ | hmove)
  · simp [hev e he] at hacc
  · exact hmove hcur

theorem moveTo_outcome {i : Nat} {a : Action} {t : Session} (hi : i ≠ s.current)
    (hrun : t.running = s.running) (hpend : t.rerunPending = s.rerunPending) :
    Outcome s (.key a) (moveTo store i t h).1.1 (runs (moveTo store i t h).1.2) := by
  simp only [moveTo]
  split
  · exact scheduleRun_outcome rfl hrun hpend (.inr hi)
  · exact scheduleRun_outcome rfl hrun hpend (.inr hi)

theorem act_outcome (a : Action) :
    Outcome s (.key a) (act store a s h).1.1 (runs (act store a s h).1.2) := by
  have still {s' : Session} (hcur : s'.current = s.current) (hrun : s'.running = s.running)
      (hpend : s'.rerunPending = s.rerunPending) : Outcome s (.key a) s' [] :=
    quiet_outcome rfl (fun _ he => nomatch he) hcur hrun hpend
  -- Only a step to a neighbour, a choice from the list and the run key touch the run status.
  cases a with
  | quit => exact still rfl rfl rfl
  | next =>
      simp only [act, goNext]
      split
      · split
        · exact moveTo_outcome (by omega) rfl rfl
        · exact still rfl rfl rfl
      · exact still rfl rfl rfl
  | previous =>
      simp only [act, goBack]
      split
      · split
        · exact moveTo_outcome (by omega) rfl rfl
        · exact still rfl rfl rfl
      · exact still rfl rfl rfl
  | toggleHint => exact still rfl rfl rfl
  | toggleList =>
      simp only [act]
      split
      · exact still rfl rfl rfl
      · exact still rfl rfl rfl
  | run =>
      simp only [act]
      split
      · exact still rfl rfl rfl
      · rename_i hidle
        exact .launched rfl hidle rfl rfl
  | select =>
      simp only [act, select]
      split
      · rename_i hmove
        exact moveTo_outcome hmove.2 rfl rfl
      · exact still rfl rfl rfl
  | dismiss => exact still rfl rfl rfl
  | cursorUp =>
      simp only [act]
      split
      · exact still rfl rfl rfl
      · exact still rfl rfl rfl
  | cursorDown =>
      simp only [act]
      split
      · exact still rfl rfl rfl
      · exact still rfl rfl rfl

/-- The end of a run comes to one of the cases of `Outcome`. -/
theorem finishRun_outcome (name : String) (v : Verdict) :
    Outcome s (.runFinished name v) (finishRun store name v s h).1.1
      (runs (finishRun store name v s h).1.2) := by
  simp only [finishRun]
  split
  · rename_i hpend
    exact .again rfl hpend rfl rfl rfl
  · rename_i hpend
    have hfalse : s.rerunPending = false := by simpa using hpend
    exact .ended rfl hfalse rfl hfalse rfl

/-- Every message has one of the outcomes. -/
theorem update_outcome (m : Message) :
    Outcome s m (update store m s h).1.1 (runs (update store m s h).1.2) := by
  cases m with
  | key a => exact act_outcome a
  | tick => exact quiet_outcome rfl (fun _ he => nomatch he) rfl rfl rfl
  | runStarted name => exact .told rfl rfl rfl rfl
  | runFinished name v => exact finishRun_outcome name v
  | fileChanged e =>
      simp only [update]
      split
      -- Waiting for the next event is asked for either way, and is no run.
      · rename_i hacc
        rw [runs_append_await]
        exact scheduleRun_outcome rfl rfl rfl (.inl ⟨e, rfl, hacc⟩)
      · rename_i hacc
        rw [runs_append_await]
        refine quiet_outcome rfl (fun e' he => ?_) rfl rfl rfl
        cases he
        simpa using hacc
  | watchError error => exact quiet_outcome rfl (fun _ he => nomatch he) rfl rfl rfl
  | watcherClosed => exact quiet_outcome rfl (fun _ he => nomatch he) rfl rfl rfl

end Session
end Trainer
