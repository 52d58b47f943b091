import Mathlib
import Trainer.Proofs.Session.Navigation

/-!
# Navigation by keys

Where a learner stands is the view, the current exercise, the cursor, the pointer and whether they
have quit.  Two sessions of one catalog stand at the same place when the same keys were pressed in
them, whatever else they heard, and whether or not anything could be stored (`navigation_by_keys`).

## The argument

* A key does the same to two sessions that stand at the same place (`SameStanding.key`); any other
  message leaves a session where it stands (`sameStanding_update`).
* So a session stands where the keys alone lead, pressed in a session that hears nothing else and
  whose store takes everything (`pressed`, `History.standing`).
-/

namespace Trainer

/-- The action that a message asks for. -/
def Message.key? : Message → Option Action
  | .key a => some a
  | _ => none

namespace Catalog

variable {σ : Type} {store : ProgressStore σ} {c : Catalog} {h : σ}

/-- Moving the pointer to an exercise moves it there, even if that cannot be stored. -/
theorem pointer_setCurrent (name : String) :
    (setCurrent store name (c, h)).2.1.progress.currentExercise =
      if (c.position? name).isSome then some name else c.progress.currentExercise := by
  have hmove : Moved store name c h (setCurrent store name (c, h)).1
      (setCurrent store name (c, h)).2.1 (setCurrent store name (c, h)).2.2 := moved_of_eq rfl
  cases hpos : c.position? name with
  | none => simp [setCurrent, hpos]
  | some i => exact hmove.pointer hpos

end Catalog

namespace Session

variable {σ τ : Type} {store : ProgressStore σ} {other : ProgressStore τ} {s s' : Session}
  {h : σ} {k : τ}

/-! ## One key in two sessions -/

theorem SameStanding.symm (hs : SameStanding s s') : SameStanding s' s :=
  ⟨⟨hs.pointer.symm, hs.names.symm, hs.current.symm⟩, hs.view.symm, hs.cursor.symm,
    hs.quitting.symm⟩

theorem SameStanding.trans {s'' : Session} (hs : SameStanding s s') (hs' : SameStanding s' s'') :
    SameStanding s s'' :=
  ⟨⟨hs'.pointer.trans hs.pointer, hs'.names.trans hs.names, hs'.current.trans hs.current⟩,
    hs'.view.trans hs.view, hs'.cursor.trans hs.cursor, hs'.quitting.trans hs.quitting⟩

theorem SamePlace.size (hs : SamePlace s s') : s'.catalog.size = s.catalog.size := by
  rw [Catalog.size_eq_length_names, hs.names, ← Catalog.size_eq_length_names]

theorem SamePlace.nameAt (hs : SamePlace s s') (i : Nat) : s'.nameAt i = s.nameAt i := by
  have hlist (t : Session) : t.nameAt i = (t.catalog.names[i]?).getD (default : Exercise).name := by
    rw [Session.nameAt, Catalog.names, List.getElem?_map, Option.getD_map]
  rw [hlist s', hlist s, hs.names]

/-- A key leads to the same position in sessions that look alike to it. -/
theorem SameStanding.destination? (hs : SameStanding s s') (a : Action) :
    s'.destination? a = s.destination? a := by
  unfold Session.destination?
  rw [hs.view, hs.current, hs.cursor, hs.toSamePlace.size]

/-- Moves to one position lead to the same place. -/
theorem SameStanding.moveTo (hs : SameStanding s s') (i : Nat) :
    SameStanding (moveTo store i s h).1.1 (moveTo other i s' k).1.1 := by
  have hnames {ρ : Type} (store : ProgressStore ρ) (t : Session) (r : ρ) :
      (Session.moveTo store i t r).1.1.catalog.names = t.catalog.names := by
    rw [moveTo_eq, scheduleRun_catalog]
    exact (Catalog.moved_of_eq rfl).names
  refine ⟨⟨?_, ?_, ?_⟩, ?_, ?_, ?_⟩
  · simp only [moveTo_eq, scheduleRun_catalog, Catalog.pointer_setCurrent, hs.toSamePlace.nameAt,
      Catalog.position?_congr hs.names, hs.pointer]
  · rw [hnames, hnames, hs.names]
  · simp only [moveTo_eq, scheduleRun_current]
  · simp only [moveTo_eq, scheduleRun_view, hs.view]
  · simp only [moveTo_eq, scheduleRun_cursor]
  · simp only [moveTo_eq, scheduleRun_quitting, hs.quitting]

/-- A key leads from the same standing to the same standing, whatever can be stored. -/
theorem SameStanding.key (hs : SameStanding s s') (a : Action) :
    SameStanding (update store (.key a) s h).1.1 (update other (.key a) s' k).1.1 := by
  cases hdest : s.destination? a with
  | some i =>
      have hdest' : s'.destination? a = some i := (hs.destination? a).trans hdest
      rw [update_of_leads (destination?_eq_some_iff.1 hdest),
        update_of_leads (destination?_eq_some_iff.1 hdest')]
      have hmain : SameStanding { s with view := .main } { s' with view := .main } :=
        { hs with view := rfl }
      exact hmain.moveTo i
  | none =>
      have hdest' : s'.destination? a = none := (hs.destination? a).trans hdest
      have hshows : Shows s a (update store (.key a) s h).1.1 := act_shows hdest
      have hshows' : Shows s' a (update other (.key a) s' k).1.1 := act_shows hdest'
      have hplace : SamePlace s (update store (.key a) s h).1.1 :=
        samePlace_update (by simp [moves, hdest])
      have hplace' : SamePlace s' (update other (.key a) s' k).1.1 :=
        samePlace_update (by simp [moves, hdest'])
      have hview : s'.viewAfter a = s.viewAfter a := by
        cases a <;> simp only [viewAfter, toggled, hs.view]
      have hcursor : s'.cursorAfter a = s.cursorAfter a := by
        cases a <;> simp only [cursorAfter, hs.view, hs.cursor, hs.current, hs.toSamePlace.size]
      constructor
      · exact ⟨(hplace'.pointer.trans hs.pointer).trans hplace.pointer.symm,
          (hplace'.names.trans hs.names).trans hplace.names.symm,
          (hplace'.current.trans hs.current).trans hplace.current.symm⟩
      · rw [hshows'.view, hview, hshows.view]
      · rw [hshows'.cursor, hcursor, hshows.cursor]
      · rw [hshows'.quitting, hs.quitting, hshows.quitting]

/-! ## All keys -/

/-- The keys that were pressed in a history, the last one first. -/
def keys (log : List (Heard σ)) : List Action :=
  log.filterMap fun x => x.message.key?

/-- The session after keys, the last one first, if it hears nothing else and all can be stored. -/
def pressed (c : Catalog) : List Action → Session
  | [] => ofCatalog c ""
  | a :: before => (update EventLoop.forgetful (.key a) (pressed c before) ()).1.1

variable {meanwhile : σ → σ → Prop} {meanwhile' : τ → τ → Prop} {c : Catalog}
  {extension extension' : String} {h₀ : σ} {k₀ : τ} {log : List (Heard σ)} {log' : List (Heard τ)}

/-- A session stands where the keys alone lead. -/
theorem History.standing (hs : History store meanwhile c extension h₀ log s h) :
    SameStanding (pressed c (keys log)) s := by
  induction hs with
  | new => exact ⟨⟨rfl, rfl, rfl⟩, rfl, rfl, rfl⟩
  | start _ ih => exact { ih with }
  | @message log s h m _ ih =>
      by_cases hm : ∀ a, m ≠ .key a
      · have hkeys : keys (⟨m, s, h⟩ :: log) = keys log := by
          refine List.filterMap_cons_none ?_
          cases m with
          | key a => exact absurd rfl (hm a)
          | tick => rfl
          | runStarted name => rfl
          | runFinished name v => rfl
          | fileChanged e => rfl
          | watchError error => rfl
          | watcherClosed => rfl
        rw [hkeys]
        exact ih.trans (sameStanding_update hm)
      · obtain ⟨a, rfl⟩ : ∃ a, m = .key a := by simpa using hm
        exact ih.key a
  | elsewhere _ _ ih => exact ih

/--
Two sessions of one catalog in which the same keys were pressed show the same view, are at the same
exercise with the same cursor, have quit or not alike, and point at the same exercise.  What else
they heard and in which order, what runs gave and which saves failed, does not matter.
-/
theorem navigation_by_keys (hs : History store meanwhile c extension h₀ log s h)
    (hs' : History other meanwhile' c extension' k₀ log' s' k) (hkeys : keys log = keys log') :
    s.view = s'.view ∧ s.current = s'.current ∧ s.cursor = s'.cursor ∧
      s.quitting = s'.quitting ∧
      s.catalog.progress.currentExercise = s'.catalog.progress.currentExercise := by
  have hstand : SameStanding (pressed c (keys log)) s' := by
    rw [hkeys]
    exact hs'.standing
  have hsame : SameStanding s' s := hstand.symm.trans hs.standing
  exact ⟨hsame.view, hsame.current, hsame.cursor, hsame.quitting, hsame.pointer⟩

/-- A step to the second exercise: one learner cannot store it, the other one has runs besides. -/
theorem navigation_by_keys_refused :
    ∃ (log : List (Heard Unit)) (s : Session) (log' : List (Heard Unit)) (s' : Session),
      History EventLoop.refusing (fun _ _ => False) EventLoop.twoExercises "sh" () log s () ∧
      History EventLoop.forgetful (fun _ _ => False) EventLoop.twoExercises "go" () log' s' () ∧
      keys log = [.next, .dismiss] ∧ keys log' = [.next, .dismiss] ∧ s.current = 1 ∧
      s.view = s'.view ∧ s.current = s'.current ∧ s.cursor = s'.cursor ∧
      s.quitting = s'.quitting ∧
      s.catalog.progress.currentExercise = s'.catalog.progress.currentExercise := by
  have hs : History EventLoop.refusing (fun _ _ => False) EventLoop.twoExercises "sh" () _ _ _ :=
    .message (.key .next) (.message (.key .dismiss) .new)
  have hs' : History EventLoop.forgetful (fun _ _ => False) EventLoop.twoExercises "go" () _ _ _ :=
    .message (.runFinished "nobody" (Verdict.start "nobody")) (.message (.key .next)
      (.message .tick (.message (.key .dismiss) (.message (.runStarted "second") (.start .new)))))
  exact ⟨_, _, _, _, hs, hs', rfl, rfl, by decide +kernel, navigation_by_keys hs hs' rfl⟩

end Session
end Trainer
