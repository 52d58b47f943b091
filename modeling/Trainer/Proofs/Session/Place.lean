import Mathlib
import Trainer.Proofs.Catalog.Attempts
import Trainer.Proofs.Catalog.Loading
import Trainer.Proofs.Session.History

/-!
# The learner's place

The place is kept twice, as a position in the session and as a name in the progress.  A move changes
both, whether or not it can be stored; nothing else changes either (`samePlace_update`).  So the
name is never that of another exercise (`Reachable.pointsHere`), and once there has been a move, or
if the progress had a name of the catalog from the start, it is that of the current one
(`History.pinned`).
-/

namespace Trainer
namespace Session

variable {σ : Type} {store : ProgressStore σ} {s s' : Session} {h : σ}

/-! ## One message -/

/-- The pointer is on no exercise but the current one. -/
def PointsHere (s : Session) : Prop :=
  ∀ name i, s.catalog.progress.currentExercise = some name →
    s.catalog.position? name = some i → i = s.current

/-- The pointer is on the current exercise. -/
def Pinned (s : Session) : Prop :=
  ∃ name, s.catalog.progress.currentExercise = some name ∧
    s.catalog.position? name = some s.current

/-- Two sessions at the same place in catalogs of the same exercises. -/
structure SamePlace (s s' : Session) : Prop where
  pointer : s'.catalog.progress.currentExercise = s.catalog.progress.currentExercise
  names : s'.catalog.names = s.catalog.names
  current : s'.current = s.current

theorem SamePlace.pointsHere (h : SamePlace s s') (hs : s.PointsHere) : s'.PointsHere := by
  intro name i hpointer hpos
  rw [h.pointer] at hpointer
  rw [Catalog.position?_congr h.names] at hpos
  rw [h.current]
  exact hs name i hpointer hpos

theorem SamePlace.pinned (h : SamePlace s s') (hs : s.Pinned) : s'.Pinned := by
  obtain ⟨name, hpointer, hpos⟩ := hs
  refine ⟨name, h.pointer.trans hpointer, ?_⟩
  rw [Catalog.position?_congr h.names, h.current]
  exact hpos

/-- A session that is pinned points at no other exercise. -/
theorem Pinned.pointsHere (hs : s.Pinned) : s.PointsHere := by
  obtain ⟨name, hpointer, hpos⟩ := hs
  intro name' i hpointer' hpos'
  rw [hpointer] at hpointer'
  cases hpointer'
  rw [hpos] at hpos'
  exact (Option.some.inj hpos').symm

/-- A move leads to a session that is pinned, and it need not be stored for that. -/
theorem pinned_moveTo {i : Nat} (hnodup : s.catalog.names.Nodup) (hi : i < s.catalog.size) :
    (moveTo store i s h).1.1.Pinned := by
  let e := s.catalog.exercises.get ⟨i, hi⟩
  have hget : s.catalog.exercises[i]? = some e := List.getElem?_eq_getElem hi
  have hname : currentExercise { s with current := i, cursor := i, status := none } = e := by
    simp [currentExercise, hget]
  have hpos : s.catalog.position? e.name = some i :=
    (Catalog.position?_iff hnodup e.name i).2 ⟨e, hget, rfl⟩
  simp only [moveTo, hname]
  split
  all_goals
    rename_i hset
    have hmove := Catalog.moved_of_eq hset
    refine ⟨e.name, ?_, ?_⟩
    · rw [scheduleRun_catalog]
      exact hmove.pointer hpos
    · rw [scheduleRun_catalog, scheduleRun_current]
      exact (Catalog.position?_congr hmove.names _).trans hpos

/-- Whether a message leads to another exercise. -/
def moves (s : Session) : Message → Bool
  | .key a => (s.destination? a).isSome
  | _ => false

/-- Any other message leaves the session at its place. -/
theorem samePlace_update {m : Message} (hm : s.moves m = false) :
    SamePlace s (update store m s h).1.1 := by
  cases m with
  | key a =>
      have hdest : s.destination? a = none := by simpa [moves] using hm
      obtain ⟨x, hstays, hact⟩ := act_of_no_destination hdest
      rw [show update store (.key a) s h = (x, h) from hact σ store h]
      exact ⟨by rw [hstays.catalog], by rw [hstays.catalog], hstays.current⟩
  | runFinished name v =>
      have hcount := Catalog.counted_recordAttempt store name v.success s.catalog h
      have hafter : SamePlace s
          { s with catalog := (Catalog.recordAttempt store name v.success (s.catalog, h)).2.1 } :=
        ⟨hcount.pointer, hcount.names, rfl⟩
      simp only [update, finishRun]
      split
      · exact ⟨hafter.pointer, hafter.names, rfl⟩
      · exact ⟨hafter.pointer, hafter.names, rfl⟩
  | fileChanged e =>
      simp only [update]
      split
      · exact ⟨by rw [scheduleRun_catalog], by rw [scheduleRun_catalog], scheduleRun_current s⟩
      · exact ⟨rfl, rfl, rfl⟩
  | tick => exact ⟨rfl, rfl, rfl⟩
  | runStarted name => exact ⟨rfl, rfl, rfl⟩
  | watchError error => exact ⟨rfl, rfl, rfl⟩
  | watcherClosed => exact ⟨rfl, rfl, rfl⟩

/-- A message that leads to another exercise pins the session there. -/
theorem pinned_update {m : Message} (hnodup : s.catalog.names.Nodup) (hs : s.InRange)
    (hm : s.moves m = true) : (update store m s h).1.1.Pinned := by
  cases m with
  | key a =>
      obtain ⟨i, hdest⟩ := Option.isSome_iff_exists.1 hm
      have hi : i < s.catalog.size := destination?_lt hs.current_lt hs.cursor_lt hdest
      rw [show update store (.key a) s h = moveTo store i { s with view := .main } h from
        act_of_destination? hdest]
      exact pinned_moveTo (s := { s with view := .main }) hnodup hi
  | tick => cases hm
  | runStarted name => cases hm
  | runFinished name v => cases hm
  | fileChanged e => cases hm
  | watchError error => cases hm
  | watcherClosed => cases hm

/-! ## All messages -/

variable {c : Catalog} {extension : String}

/-- A session starts where the pointer is. -/
theorem pointsHere_ofCatalog (c : Catalog) (extension : String) :
    (ofCatalog c extension).PointsHere := by
  intro name i hpointer hpos
  have hbind : c.progress.currentExercise.bind c.position? = some i := by
    rw [show c.progress.currentExercise = some name from hpointer]
    exact hpos
  change i = c.resumePosition
  simp only [Catalog.resumePosition, hbind]

/-- In every state of a session the pointer is on no exercise but the current one. -/
theorem Reachable.pointsHere (hnodup : c.names.Nodup) (hne : c.exercises ≠ [])
    (hs : Reachable store c extension s) : s.PointsHere := by
  induction hs with
  | new => exact pointsHere_ofCatalog c extension
  | start _ ih => exact ih
  | @message s m h hbefore ih =>
      have hnames : s.catalog.names = c.names := hbefore.map_exercises Catalog.lasting_name
      cases hm : s.moves m with
      | false => exact (samePlace_update hm).pointsHere ih
      | true =>
          rw [← hnames] at hnodup
          exact (pinned_update hnodup (hbefore.inRange hne) hm).pointsHere

/-- A move was made with a message. -/
def Heard.Moved (store : ProgressStore σ) (x : Heard σ) : Prop :=
  (update store x.message x.session x.machine).1.1.current ≠ x.session.current

instance (store : ProgressStore σ) (x : Heard σ) : Decidable (x.Moved store) :=
  inferInstanceAs (Decidable (_ ≠ _))

theorem moves_of_moved {x : Heard σ} (hx : x.Moved store) : x.session.moves x.message = true := by
  by_contra hno
  exact hx (samePlace_update (by simpa using hno)).current

/-- Once there was a move, or if the session began there, the pointer is on the current exercise. -/
theorem History.pinned {meanwhile : σ → σ → Prop} {h₀ : σ} {log : List (Heard σ)}
    (hs : History store meanwhile c extension h₀ log s h) (hnodup : c.names.Nodup)
    (hne : c.exercises ≠ [])
    (hpin : (∃ x ∈ log, x.Moved store) ∨ (ofCatalog c extension).Pinned) : s.Pinned := by
  induction hs with
  | new =>
      rcases hpin with ⟨x, hx, -⟩ | hstart
      · cases hx
      · exact hstart
  | start _ ih => exact ih hpin
  | @message log s h m hbefore ih =>
      have hnames : s.catalog.names = c.names :=
        hbefore.reachable.map_exercises Catalog.lasting_name
      cases hm : s.moves m with
      | true =>
          rw [← hnames] at hnodup
          exact pinned_update hnodup (hbefore.reachable.inRange hne) hm
      | false =>
          -- The move was made before, and this message leaves the session where it is.
          refine (samePlace_update hm).pinned (ih ?_)
          rcases hpin with ⟨x, hx, hmoved⟩ | hstart
          · rcases List.mem_cons.1 hx with rfl | hearlier
            · rw [moves_of_moved hmoved] at hm
              cases hm
            · exact .inl ⟨x, hearlier, hmoved⟩
          · exact .inr hstart
  | elsewhere _ _ ih => exact ih hpin

end Session
end Trainer
