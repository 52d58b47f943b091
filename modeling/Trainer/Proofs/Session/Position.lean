import Mathlib
import Trainer.Proofs.Session.Outcome

/-!
# Positions of a session

A session names exercises by their positions in the catalog.  A key leads to another position or it
leaves the session where it is (`act_of_destination?`, `act_of_no_destination`), so a law about keys
has two cases.  No message changes which exercises there are or what their authors have said of them
(`map_update`), and in a session of a catalog with an exercise the current position and the cursor
stay positions of exercises (`InRange.update`).  So it is in every state of a session
(`Reachable.map_exercises`, `Reachable.inRange`).
-/

namespace Trainer

namespace Catalog

/-- The place where the learner goes on is the place of an exercise. -/
theorem resumePosition_lt_size {c : Catalog} (hc : c.exercises ≠ []) :
    c.resumePosition < c.size := by
  unfold resumePosition
  split
  · rename_i i hi
    obtain ⟨name, -, hpos⟩ := Option.bind_eq_some_iff.1 hi
    exact position?_lt_size hpos
  -- No exercise is recorded, or it is gone: the first one not completed, or the first of all.
  · cases hfirst : c.exercises.findIdx? fun e => !e.completed with
    | none => exact List.length_pos_iff.2 hc
    | some i =>
        obtain ⟨hi, -⟩ := List.findIdx?_eq_some_iff_getElem.1 hfirst
        exact hi

theorem Moved.size {σ : Type} {store : ProgressStore σ} {name : String} {c c' : Catalog} {s s' : σ}
    {r : Except Failure Unit} (h : Moved store name c s r c' s') : c'.size = c.size := by
  simp [Catalog.size, h.exercises]

end Catalog

namespace Session

variable {σ : Type} {store : ProgressStore σ} {s : Session} {h : σ}

/-! ## Where a key leads -/

/-- The position that a key leads to, if it leads to another exercise. -/
def destination? (s : Session) : Action → Option Nat
  | .next =>
      if s.view = .main ∧ s.current + 1 < s.catalog.size then some (s.current + 1) else none
  | .previous => if s.view = .main ∧ 0 < s.current then some (s.current - 1) else none
  | .select => if s.view = .list ∧ s.cursor ≠ s.current then some s.cursor else none
  | _ => none

/-- A key that leads to another exercise goes there in the main view. -/
theorem act_of_destination? {a : Action} {i : Nat} (hdest : s.destination? a = some i) :
    act store a s h = moveTo store i { s with view := .main } h := by
  have hsame : s.view = .main → ({ s with view := .main } : Session) = s := by
    intro hview
    rw [← hview]
  cases a with
  | next =>
      simp only [destination?] at hdest
      split at hdest
      · rename_i hnext
        cases hdest
        rw [hsame hnext.1]
        simp [act, goNext, hnext]
      · cases hdest
  | previous =>
      simp only [destination?] at hdest
      split at hdest
      · rename_i hback
        cases hdest
        rw [hsame hback.1]
        simp [act, goBack, hback]
      · cases hdest
  | select =>
      simp only [destination?] at hdest
      split at hdest
      · rename_i hselect
        cases hdest
        simp [act, select, hselect]
      · cases hdest
  | toggleHint => cases hdest
  | toggleList => cases hdest
  | run => cases hdest
  | quit => cases hdest
  | dismiss => cases hdest
  | cursorUp => cases hdest
  | cursorDown => cases hdest

/-- A session that is at the same exercise of the same catalog as another one. -/
structure Stays (s s' : Session) : Prop where
  catalog : s'.catalog = s.catalog
  sourceExtension : s'.sourceExtension = s.sourceExtension
  current : s'.current = s.current
  /-- The cursor may have moved, but not out of the list. -/
  cursor_lt : s.current < s.catalog.size → s.cursor < s.catalog.size →
    s'.cursor < s.catalog.size

/-- Any other key leaves the session at its exercise, and asks nothing of the machine. -/
theorem act_of_no_destination {a : Action} (hdest : s.destination? a = none) :
    ∃ x : Session × List Effect, Stays s x.1 ∧
      ∀ (τ : Type) (store : ProgressStore τ) (t : τ), act store a s t = (x, t) := by
  have stays : ∀ s' : Session, s'.catalog = s.catalog →
      s'.sourceExtension = s.sourceExtension → s'.current = s.current → s'.cursor = s.cursor →
      Stays s s' := by
    intro s' hcatalog hextension hcurrent hcursor
    refine ⟨hcatalog, hextension, hcurrent, ?_⟩
    intro _ hlt
    rw [hcursor]
    exact hlt
  cases a with
  | next =>
      simp only [destination?, ite_eq_right_iff, reduceCtorEq, imp_false, not_and] at hdest
      by_cases hview : s.view = .main
      · exact ⟨_, stays _ rfl rfl rfl rfl,
          fun _ _ _ => (if_pos hview).trans (if_neg (hdest hview))⟩
      · exact ⟨_, stays _ rfl rfl rfl rfl, fun _ _ _ => if_neg hview⟩
  | previous =>
      simp only [destination?, ite_eq_right_iff, reduceCtorEq, imp_false, not_and] at hdest
      by_cases hview : s.view = .main
      · exact ⟨_, stays _ rfl rfl rfl rfl,
          fun _ _ _ => (if_pos hview).trans (if_neg (hdest hview))⟩
      · exact ⟨_, stays _ rfl rfl rfl rfl, fun _ _ _ => if_neg hview⟩
  | select =>
      simp only [destination?, ite_eq_right_iff, reduceCtorEq, imp_false] at hdest
      exact ⟨_, stays _ rfl rfl rfl rfl, fun _ _ _ => if_neg hdest⟩
  | toggleList =>
      by_cases hview : s.view = .list
      · exact ⟨_, stays _ rfl rfl rfl rfl, fun _ _ _ => if_pos hview⟩
      · -- The list opens with the cursor at the current exercise.
        exact ⟨_, ⟨rfl, rfl, rfl, fun hcurrent _ => hcurrent⟩, fun _ _ _ => if_neg hview⟩
  | run =>
      cases hrun : s.running with
      | some name =>
          refine ⟨({ s with status := some (name ++ " is still running") }, []),
            stays _ rfl rfl rfl rfl, fun _ _ _ => ?_⟩
          simp only [act, hrun]
      | none =>
          refine ⟨s.beginRun, stays _ rfl rfl rfl rfl, fun _ _ _ => ?_⟩
          simp only [act, hrun]
  | cursorUp =>
      by_cases hview : s.view = .list
      · refine ⟨_, ⟨rfl, rfl, rfl, ?_⟩, fun _ _ _ => if_pos hview⟩
        intro _ hlt
        exact Nat.lt_of_le_of_lt (Nat.sub_le _ _) hlt
      · exact ⟨_, stays _ rfl rfl rfl rfl, fun _ _ _ => if_neg hview⟩
  | cursorDown =>
      by_cases hdown : s.view = .list ∧ s.cursor + 1 < s.catalog.size
      · exact ⟨_, ⟨rfl, rfl, rfl, fun _ _ => hdown.2⟩, fun _ _ _ => if_pos hdown⟩
      · exact ⟨_, stays _ rfl rfl rfl rfl, fun _ _ _ => if_neg hdown⟩
  | toggleHint => exact ⟨_, stays _ rfl rfl rfl rfl, fun _ _ _ => rfl⟩
  | quit => exact ⟨_, stays _ rfl rfl rfl rfl, fun _ _ _ => rfl⟩
  | dismiss => exact ⟨_, stays _ rfl rfl rfl rfl, fun _ _ _ => rfl⟩

/-- A key leads to a position in the catalog. -/
theorem destination?_lt {a : Action} {i : Nat} (hcurrent : s.current < s.catalog.size)
    (hcursor : s.cursor < s.catalog.size) (hdest : s.destination? a = some i) :
    i < s.catalog.size := by
  unfold destination? at hdest
  split at hdest
  · split at hdest
    · rename_i hnext
      cases hdest
      exact hnext.2
    · cases hdest
  · split at hdest
    · cases hdest
      exact Nat.lt_of_le_of_lt (Nat.sub_le _ _) hcurrent
    · cases hdest
  · split at hdest
    · cases hdest
      exact hcursor
    · cases hdest
  · cases hdest

/-! ## The exercises of a session -/

theorem scheduleRun_catalog (s : Session) : s.scheduleRun.1.catalog = s.catalog := by
  unfold scheduleRun
  split <;> rfl

theorem scheduleRun_current (s : Session) : s.scheduleRun.1.current = s.current := by
  unfold scheduleRun
  split <;> rfl

theorem scheduleRun_cursor (s : Session) : s.scheduleRun.1.cursor = s.cursor := by
  unfold scheduleRun
  split <;> rfl

theorem scheduleRun_sourceExtension (s : Session) :
    s.scheduleRun.1.sourceExtension = s.sourceExtension := by
  unfold scheduleRun
  split <;> rfl

/-- A session goes on with the exercises and the extension of another one. -/
structure Continues (s s' : Session) : Prop where
  exercises : s'.catalog.exercises = s.catalog.exercises
  sourceExtension : s'.sourceExtension = s.sourceExtension

theorem moveTo_continues (i : Nat) : Continues s (moveTo store i s h).1.1 := by
  simp only [moveTo]
  split
  all_goals
    rename_i hset
    constructor
    · rw [scheduleRun_catalog]
      exact (Catalog.moved_of_eq hset).exercises
    · rw [scheduleRun_sourceExtension]

theorem act_continues (a : Action) : Continues s (act store a s h).1.1 := by
  cases hdest : s.destination? a with
  | none =>
      obtain ⟨x, hstays, hact⟩ := act_of_no_destination hdest
      rw [hact]
      exact ⟨congrArg Catalog.exercises hstays.catalog, hstays.sourceExtension⟩
  | some i =>
      have hmove : Continues { s with view := .main }
          (moveTo store i { s with view := .main } h).1.1 := moveTo_continues i
      rw [act_of_destination? hdest]
      exact ⟨hmove.exercises, hmove.sourceExtension⟩

section Lasting

variable {β : Type} {f : Exercise → β}

/-- The end of a run changes nothing of an exercise but what the learner has done. -/
theorem finishRun_map (hf : Catalog.Lasting f) (name : String) (v : Verdict) :
    (finishRun store name v s h).1.1.catalog.exercises.map f = s.catalog.exercises.map f := by
  have hcount := (Catalog.counted_of_eq
    (show Catalog.recordAttempt store name v.success (s.catalog, h) = (_, (_, _)) from rfl)).map hf
  simp only [finishRun]
  split
  · exact hcount
  · exact hcount

/-- No message changes which exercises there are and what their authors have said of them. -/
theorem map_update (hf : Catalog.Lasting f) (m : Message) :
    (update store m s h).1.1.catalog.exercises.map f = s.catalog.exercises.map f := by
  cases m with
  | key a => exact congrArg (List.map f) (act_continues a).exercises
  | runFinished name v => exact finishRun_map hf name v
  | fileChanged e =>
      simp only [update]
      split
      · rw [scheduleRun_catalog]
      · rfl
  | tick => rfl
  | runStarted name => rfl
  | watchError error => rfl
  | watcherClosed => rfl

end Lasting

/-- No message changes which extension a session looks for. -/
theorem sourceExtension_update (m : Message) :
    (update store m s h).1.1.sourceExtension = s.sourceExtension := by
  cases m with
  | key a => exact (act_continues a).sourceExtension
  | runFinished name v =>
      simp only [update, finishRun]
      split <;> rfl
  | fileChanged e =>
      simp only [update]
      split
      · exact scheduleRun_sourceExtension s
      · rfl
  | tick => rfl
  | runStarted name => rfl
  | watchError error => rfl
  | watcherClosed => rfl

/-- No message changes a name. -/
theorem names_update (m : Message) :
    (update store m s h).1.1.catalog.names = s.catalog.names :=
  map_update Catalog.lasting_name m

/-- No message changes the number of exercises. -/
theorem size_update (m : Message) :
    (update store m s h).1.1.catalog.size = s.catalog.size := by
  rw [Catalog.size_eq_length_names, names_update, ← Catalog.size_eq_length_names]

/-! ## Positions in range -/

/-- The current position and the cursor are positions of exercises. -/
structure InRange (s : Session) : Prop where
  current_lt : s.current < s.catalog.size
  cursor_lt : s.cursor < s.catalog.size

/-- The current exercise is an exercise of the catalog. -/
theorem InRange.getElem?_current (hs : InRange s) :
    s.catalog.exercises[s.current]? = some s.currentExercise := by
  have hlt : s.current < s.catalog.exercises.length := hs.current_lt
  simp [currentExercise, List.getElem?_eq_getElem hlt]

theorem inRange_ofCatalog {c : Catalog} (hc : c.exercises ≠ []) (extension : String) :
    InRange (ofCatalog c extension) :=
  ⟨Catalog.resumePosition_lt_size hc, Catalog.resumePosition_lt_size hc⟩

theorem moveTo_inRange {i : Nat} (hi : i < s.catalog.size) :
    InRange (moveTo store i s h).1.1 := by
  simp only [moveTo]
  split
  all_goals
    rename_i hset
    have hsize := (Catalog.moved_of_eq hset).size
    constructor
    · rw [scheduleRun_catalog, scheduleRun_current]
      exact hsize ▸ hi
    · rw [scheduleRun_catalog, scheduleRun_cursor]
      exact hsize ▸ hi

/-- Keys do not lead out of the catalog. -/
theorem act_inRange (hs : InRange s) (a : Action) : InRange (act store a s h).1.1 := by
  cases hdest : s.destination? a with
  | none =>
      obtain ⟨x, hstays, hact⟩ := act_of_no_destination hdest
      rw [hact]
      constructor
      · rw [hstays.catalog, hstays.current]
        exact hs.current_lt
      · rw [hstays.catalog]
        exact hstays.cursor_lt hs.current_lt hs.cursor_lt
  | some i =>
      have hlt : i < s.catalog.size := destination?_lt hs.current_lt hs.cursor_lt hdest
      rw [act_of_destination? hdest]
      exact moveTo_inRange (s := { s with view := .main }) hlt

/-- Positions in range stay in range. -/
theorem InRange.update (hs : InRange s) (m : Message) : InRange (update store m s h).1.1 := by
  have hsize : (Session.update store m s h).1.1.catalog.size = s.catalog.size := size_update m
  cases m with
  | key a => exact act_inRange hs a
  | runFinished name v =>
      -- The catalog is another one, but it is as long, and the positions are the same.
      have hcur : (Session.update store (.runFinished name v) s h).1.1.current = s.current := by
        simp only [Session.update, finishRun]
        split <;> rfl
      have hcursor : (Session.update store (.runFinished name v) s h).1.1.cursor = s.cursor := by
        simp only [Session.update, finishRun]
        split <;> rfl
      exact ⟨by rw [hsize, hcur]; exact hs.current_lt, by rw [hsize, hcursor]; exact hs.cursor_lt⟩
  | fileChanged e =>
      simp only [Session.update]
      split
      · constructor
        · rw [scheduleRun_catalog, scheduleRun_current]
          exact hs.current_lt
        · rw [scheduleRun_catalog, scheduleRun_cursor]
          exact hs.cursor_lt
      · exact hs
  | tick => exact ⟨hs.current_lt, hs.cursor_lt⟩
  | runStarted name => exact ⟨hs.current_lt, hs.cursor_lt⟩
  | watchError error => exact ⟨hs.current_lt, hs.cursor_lt⟩
  | watcherClosed => exact ⟨hs.current_lt, hs.cursor_lt⟩

/-! ## Sessions of a catalog -/

variable {c : Catalog} {extension : String}

/-- The states of a session of a catalog, whatever messages come in whatever order. -/
inductive Reachable (store : ProgressStore σ) (c : Catalog) (extension : String) :
    Session → Prop where
  | new : Reachable store c extension (ofCatalog c extension)
  | start {s : Session} : Reachable store c extension s → Reachable store c extension s.start.1
  | message {s : Session} (m : Message) (h : σ) : Reachable store c extension s →
      Reachable store c extension (update store m s h).1.1

/-- What its author has said of an exercise is as in the catalog. -/
theorem Reachable.map_exercises {β : Type} {f : Exercise → β} (hf : Catalog.Lasting f)
    (hs : Reachable store c extension s) : s.catalog.exercises.map f = c.exercises.map f := by
  induction hs with
  | new => rfl
  | start _ ih => exact ih
  | message m h _ ih => exact (map_update hf m).trans ih

/-- The extension of a session stays the one it started with. -/
theorem Reachable.sourceExtension_eq (hs : Reachable store c extension s) :
    s.sourceExtension = extension := by
  induction hs with
  | new => rfl
  | start _ ih => exact ih
  | message m h _ ih => exact (sourceExtension_update m).trans ih

/-- No history leads a session out of range. -/
theorem Reachable.inRange (hc : c.exercises ≠ []) (hs : Reachable store c extension s) :
    InRange s := by
  induction hs with
  | new => exact inRange_ofCatalog hc extension
  | start _ ih => exact ⟨ih.current_lt, ih.cursor_lt⟩
  | message m h _ ih => exact ih.update m

end Session
end Trainer
