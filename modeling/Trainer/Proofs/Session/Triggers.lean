import Mathlib
import Trainer.Proofs.Session.EventLoop

/-!
# Automatic runs

A turn of the event loop is a trigger when the session accepts a file event or goes to another
exercise.  No trigger is lost and none counts twice: `rerunPending` says whether there has been a
trigger since the last run was asked for (`no_trigger_lost`), read off the turns themselves
(`Awaited`) and not off the session's memory.

The invariant is `Remembers`; each outcome of a message keeps it (`Remembers.step`).
-/

namespace Trainer

open Session

namespace Turn

/-- Whether the turn asks for no run. -/
def quiet (t : Turn) : Bool :=
  (runs t.effects).isEmpty

/-- Whether the turn asks for an automatic run. -/
def Triggered (t : Turn) : Prop :=
  t.before.Triggers t.message t.after

end Turn

namespace EventLoop

variable {σ : Type} {store : ProgressStore σ} {c : Catalog} {extension : String}

/-! ## Triggers since the last run -/

/-- Whether a trigger has come after the last turn that asked for a run. -/
def Awaited (turns : List Turn) : Prop :=
  ∃ t ∈ turns.takeWhile Turn.quiet, t.Triggered

theorem not_awaited_nil : ¬ Awaited [] := by
  rintro ⟨t, ht, -⟩
  cases ht

theorem not_awaited_cons_of_runs {t : Turn} {turns : List Turn} (ht : runs t.effects ≠ []) :
    ¬ Awaited (t :: turns) := by
  have hloud : t.quiet = false := by simpa [Turn.quiet] using ht
  simp [Awaited, hloud]

theorem awaited_cons_of_quiet (t : Turn) (turns : List Turn) (ht : runs t.effects = []) :
    Awaited (t :: turns) ↔ t.Triggered ∨ Awaited turns := by
  have hquiet : t.quiet = true := by simp [Turn.quiet, ht]
  simp [Awaited, hquiet]

/-! ## The invariant -/

/-- The session remembers exactly the triggers that no run has followed. -/
structure Remembers (turns : List Turn) (s : Session) : Prop where
  pending_iff : s.rerunPending = true ↔ Awaited turns
  busy : s.rerunPending = true → s.running.isSome = true

theorem Remembers.of_not_pending {turns : List Turn} {s : Session} (hs : s.rerunPending = false)
    (hturns : ¬ Awaited turns) : Remembers turns s :=
  ⟨by simp [hs, hturns], by simp [hs]⟩

theorem remembers_start (c : Catalog) (extension : String) :
    Remembers [] (start c extension).session :=
  .of_not_pending rfl not_awaited_nil

/-- Whatever a message comes to, the session remembers what is waiting. -/
theorem Remembers.step {turns : List Turn} {t : Turn} (hs : Remembers turns t.before)
    (hout : Outcome t.before t.message t.after (runs t.effects)) :
    Remembers (t :: turns) t.after := by
  obtain ⟨s, m, s', effects⟩ := t
  dsimp only at hs hout ⊢
  generalize hes : runs effects = es at hout
  -- A turn that asks for a run starts the account anew; any other one may add to it.
  cases hout with
  | quiet _ htrig hrun hpend =>
      have hiff := awaited_cons_of_quiet ⟨s, m, s', effects⟩ turns hes
      constructor
      · rw [hpend, hs.pending_iff, hiff]
        simp [Turn.Triggered, htrig]
      · rw [hpend, hrun]
        exact hs.busy
  | told hm hrun hpend hcur =>
      have hiff := awaited_cons_of_quiet ⟨s, m, s', effects⟩ turns hes
      have htrig : ¬ s.Triggers m s' := not_triggers_of_ofRun (by rw [hm]; rfl) hcur
      constructor
      · rw [hpend, hs.pending_iff, hiff]
        simp [Turn.Triggered, htrig]
      · simp [hrun]
  | remembered _ htrig hbusy hrun hpend =>
      have hiff := awaited_cons_of_quiet ⟨s, m, s', effects⟩ turns hes
      constructor
      · rw [hpend, hiff]
        simp [Turn.Triggered, htrig]
      · rw [hrun]
        exact fun _ => hbusy
  | launched _ hidle hrun hpend =>
      -- A run starts at once only when none is in flight, and then nothing is remembered.
      have hfree : s.rerunPending = false := by
        by_contra hne
        have := hs.busy (by simpa using hne)
        rw [hidle] at this
        cases this
      exact .of_not_pending (hpend.trans hfree) (not_awaited_cons_of_runs (by simp [hes]))
  | ended hm hpend hrun hpend' hcur =>
      have hiff := awaited_cons_of_quiet ⟨s, m, s', effects⟩ turns hes
      have htrig : ¬ s.Triggers m s' := not_triggers_of_ofRun (by rw [hm]; rfl) hcur
      refine .of_not_pending hpend' ?_
      -- The turn asks for no run, so earlier triggers still count; there have been none.
      rw [hiff]
      simp [Turn.Triggered, htrig, ← hs.pending_iff, hpend]
  | again hm hpend hrun hpend' hcur =>
      exact .of_not_pending hpend' (not_awaited_cons_of_runs (by simp [hes]))

/-- In every loop that can be reached, the session remembers what is waiting. -/
theorem Reached.remembers {turns : List Turn} {l : EventLoop}
    (hl : Reached store c extension turns l) : Remembers turns l.session := by
  induction hl with
  | start => exact remembers_start c extension
  | step _ ht ih =>
      cases ht with
      | take h hdue => exact ih.step (update_outcome _)

/-- No turn of the loop leads out of the catalog. -/
theorem Reached.inRange {turns : List Turn} {l : EventLoop} (hc : c.exercises ≠ [])
    (hl : Reached store c extension turns l) : InRange l.session :=
  hl.reachable.inRange hc

/-! ## What a turn asks for -/

/-- No run is going on just if the session knows of none. -/
theorem Tracks.flights_eq_nil_iff {l : EventLoop} (hl : l.Tracks) :
    l.flights = [] ↔ l.session.running = none := by
  rw [← List.map_eq_nil_iff (f := fun f : Flight => f.exercise.name), hl]
  cases l.session.running <;> simp

/-- A trigger starts a run when none is in flight, and none otherwise. -/
theorem runs_of_triggers {s s' : Session} {m : Message} {es : List Exercise}
    (hout : Outcome s m s' es) (htrig : s.Triggers m s') :
    es = if s.running.isSome then [] else [s'.currentExercise] := by
  cases hout with
  | quiet _ hno => exact absurd htrig hno
  | remembered _ _ hbusy => simp [hbusy]
  | launched _ hidle => simp [hidle]
  | told hm _ _ hcur => exact absurd htrig (not_triggers_of_ofRun (by rw [hm]; rfl) hcur)
  | ended hm _ _ _ hcur => exact absurd htrig (not_triggers_of_ofRun (by rw [hm]; rfl) hcur)
  | again hm _ _ _ hcur => exact absurd htrig (not_triggers_of_ofRun (by rw [hm]; rfl) hcur)

/-- The end of a run starts another one when a trigger was remembered, and none otherwise. -/
theorem runs_of_runFinished {s s' : Session} {name : String} {v : Verdict} {es : List Exercise}
    (hout : Outcome s (.runFinished name v) s' es) :
    es = if s.rerunPending then [s'.currentExercise] else [] := by
  cases hout with
  | ended _ hpend => simp [hpend]
  | again _ hpend => simp [hpend]
  | told hm => cases hm
  | quiet hm => cases hm
  | remembered hm => cases hm
  | launched hm => cases hm

/-- A run that is asked for is one of the exercise that is current then. -/
theorem eq_currentExercise_of_mem {s s' : Session} {m : Message} {es : List Exercise}
    (hout : Outcome s m s' es) {e : Exercise} (he : e ∈ es) : e = s'.currentExercise := by
  cases hout with
  | launched => exact List.mem_singleton.1 he
  | again => exact List.mem_singleton.1 he
  | quiet => cases he
  | told => cases he
  | remembered => cases he
  | ended => cases he

/--
A run is remembered exactly when a trigger has come since the last run was asked for, and only while
a run is in flight.  A trigger asks for one run if none is in flight and for none otherwise; the end
of a run asks for one run if a trigger is remembered and for none otherwise; and every run, the
first one included, is one of the exercise that is current when it is asked for.
-/
theorem no_trigger_lost {turns : List Turn} {l : EventLoop} (hc : c.exercises ≠ [])
    (hl : Reached store c extension turns l) :
    (l.session.rerunPending = true ↔ Awaited turns) ∧
    (l.session.rerunPending = true → l.flights ≠ []) ∧
    (∀ m left h, Due l.flights m left →
      ((turn store l.session m h).Triggered →
        runs (turn store l.session m h).effects =
          if l.flights = [] then [(turn store l.session m h).after.currentExercise] else []) ∧
      (∀ name v, m = .runFinished name v →
        runs (turn store l.session m h).effects =
          if l.session.rerunPending then [(turn store l.session m h).after.currentExercise]
          else []) ∧
      (∀ e ∈ runs (turn store l.session m h).effects,
        (turn store l.session m h).after.catalog.exercises[
          (turn store l.session m h).after.current]? = some e)) ∧
    (∀ e ∈ runs (ofCatalog c extension).start.2,
      c.exercises[(ofCatalog c extension).start.1.current]? = some e) := by
  have hmem := hl.remembers
  have htrack := hl.tracks
  have hidle := htrack.flights_eq_nil_iff
  refine ⟨hmem.pending_iff, ?_, ?_, ?_⟩
  · intro hpend hnil
    have hbusy := hmem.busy hpend
    rw [hidle.1 hnil] at hbusy
    cases hbusy
  · intro m left h _
    have hout : Outcome l.session m (turn store l.session m h).after
        (runs (turn store l.session m h).effects) := update_outcome m
    refine ⟨?_, ?_, ?_⟩
    · intro htrig
      rw [runs_of_triggers hout htrig]
      -- `running` and the flights say alike whether the loop is idle.
      cases hrun : l.session.running <;> simp [hidle, hrun]
    · intro name v hm
      subst hm
      exact runs_of_runFinished hout
    · intro e he
      rw [eq_currentExercise_of_mem hout he]
      exact ((hl.inRange hc).update m).getElem?_current
  · intro e he
    have hstart := (inRange_ofCatalog hc extension).getElem?_current
    have heq : e = (ofCatalog c extension).currentExercise := List.mem_singleton.1 he
    rw [heq]
    exact hstart

/-- A save during the first run is remembered. -/
theorem reached_saved :
    ∃ turns l, Reached forgetful oneExercise "sh" turns l ∧ l.session.rerunPending = true :=
  ⟨_, _, .step (.step .start (.take () (.begun [] [] oneExercise.exercises[0])))
    (.take () (.other (m := .fileChanged ⟨⟨"/e/hello.sh"⟩, .write⟩) rfl)), by decide +kernel⟩

theorem no_trigger_lost_saved :
    oneExercise.exercises ≠ [] ∧
    ∃ turns l, Reached forgetful oneExercise "sh" turns l ∧
      l.session.rerunPending = true ∧ Awaited turns ∧ l.flights ≠ [] := by
  have hc : oneExercise.exercises ≠ [] := by decide
  obtain ⟨turns, l, hl, hpend⟩ := reached_saved
  have hkept := no_trigger_lost hc hl
  exact ⟨hc, turns, l, hl, hpend, hkept.1.1 hpend, hkept.2.1 hpend⟩

end EventLoop
end Trainer
