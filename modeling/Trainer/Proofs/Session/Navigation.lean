import Mathlib
import Trainer.Proofs.Session.Lookup
import Trainer.Proofs.Session.Place
import Trainer.Proofs.Session.Unsaved

/-!
# Navigation

A learner goes from one exercise to another by three keys and in no other way (`Session.Leads`).
Every such move has the same consequences, whether or not it can be stored: the status speaks of
the move, the pointer is on the new exercise, and one automatic run is due (`Session.Arrives`).
`navigation_law` says so of every state of a session and every message.

## The argument

* A move is one change of the session, followed by a run that is started or remembered
  (`moveTo_eq`); both endings of the save are in the status.
* A run is remembered only while one is in flight (`Reachable.running_of_pending`), so a move of an
  idle session leaves none remembered beside the one that it starts.
-/

namespace Trainer

namespace Catalog

/-- An exercise of the catalog has a position under its name. -/
theorem exists_position?_of_getElem? {c : Catalog} {i : Nat} {e : Exercise}
    (he : c.exercises[i]? = some e) : ∃ j, c.position? e.name = some j := by
  cases hpos : c.position? e.name with
  | none => exact absurd rfl (name_ne_of_unknown hpos (List.mem_of_getElem? he))
  | some j => exact ⟨j, rfl⟩

end Catalog

namespace Session

variable {σ : Type} {store : ProgressStore σ} {s : Session} {h : σ}

/-! ## Where messages lead -/

/-- The messages that lead to another exercise, each with its position. -/
inductive Leads (s : Session) : Message → Nat → Prop where
  | next : s.view = .main → s.current + 1 < s.catalog.size →
      Leads s (.key .next) (s.current + 1)
  | previous : s.view = .main → 0 < s.current → Leads s (.key .previous) (s.current - 1)
  | select : s.view = .list → s.cursor ≠ s.current → Leads s (.key .select) s.cursor

/-- The positions that keys lead to are those of `Leads`. -/
theorem destination?_eq_some_iff {a : Action} {i : Nat} :
    s.destination? a = some i ↔ s.Leads (.key a) i := by
  constructor
  · intro hdest
    unfold destination? at hdest
    split at hdest
    · split at hdest
      · rename_i hnext
        cases hdest
        exact .next hnext.1 hnext.2
      · cases hdest
    · split at hdest
      · rename_i hback
        cases hdest
        exact .previous hback.1 hback.2
      · cases hdest
    · split at hdest
      · rename_i hselect
        cases hdest
        exact .select hselect.1 hselect.2
      · cases hdest
    · cases hdest
  · intro hleads
    cases hleads with
    | next hview hlt => exact if_pos ⟨hview, hlt⟩
    | previous hview hpos => exact if_pos ⟨hview, hpos⟩
    | select hview hne => exact if_pos ⟨hview, hne⟩

/-- A message leads away from the current exercise or not at all. -/
theorem Leads.ne {m : Message} {i : Nat} (hleads : s.Leads m i) : i ≠ s.current := by
  cases hleads with
  | next => exact Nat.succ_ne_self _
  | previous _ hpos => exact Nat.ne_of_lt (Nat.sub_one_lt_of_lt hpos)
  | select _ hne => exact hne

theorem Leads.exists_key {m : Message} {i : Nat} (hleads : s.Leads m i) : ∃ a, m = .key a := by
  cases hleads with
  | next => exact ⟨.next, rfl⟩
  | previous => exact ⟨.previous, rfl⟩
  | select => exact ⟨.select, rfl⟩

/-- A message moves a session if it leads somewhere. -/
theorem moves_iff {m : Message} : s.moves m = true ↔ ∃ i, s.Leads m i := by
  constructor
  · intro hm
    cases m with
    | key a =>
        obtain ⟨i, hi⟩ := Option.isSome_iff_exists.1 hm
        exact ⟨i, destination?_eq_some_iff.1 hi⟩
    | tick => cases hm
    | runStarted name => cases hm
    | runFinished name v => cases hm
    | fileChanged e => cases hm
    | watchError error => cases hm
    | watcherClosed => cases hm
  · rintro ⟨i, hleads⟩
    obtain ⟨a, rfl⟩ := hleads.exists_key
    rw [moves, destination?_eq_some_iff.2 hleads]
    rfl

/-! ## A move -/

/-- A move is one change of the session, after which a run is started or remembered. -/
theorem moveTo_eq (i : Nat) : moveTo store i s h =
    (scheduleRun { s with
        current := i
        cursor := i
        catalog := (Catalog.setCurrent store (s.nameAt i) (s.catalog, h)).2.1
        status := (Catalog.complaint?
          (Catalog.setCurrent store (s.nameAt i) (s.catalog, h)).1).map unsavedText },
      (Catalog.setCurrent store (s.nameAt i) (s.catalog, h)).2.2) := by
  have hname : currentExercise { s with current := i, cursor := i, status := none } =
      s.catalog.exercises[i]?.getD default := rfl
  simp only [moveTo, hname, nameAt]
  rcases Catalog.setCurrent store (s.catalog.exercises[i]?.getD default).name (s.catalog, h) with
    ⟨answer, catalog, h'⟩
  cases answer with
  | ok u => rfl
  | error f => rfl

/-- A message that leads somewhere goes there, in the main view. -/
theorem update_of_leads {m : Message} {i : Nat} (hleads : s.Leads m i) :
    update store m s h = moveTo store i { s with view := .main } h := by
  cases m with
  | key a => exact act_of_destination? (destination?_eq_some_iff.2 hleads)
  | tick => cases hleads
  | runStarted name => cases hleads
  | runFinished name v => cases hleads
  | fileChanged e => cases hleads
  | watchError error => cases hleads
  | watcherClosed => cases hleads

/-- After a message that leads somewhere, the session is there. -/
theorem current_of_leads {m : Message} {i : Nat} (hleads : s.Leads m i) :
    (update store m s h).1.1.current = i := by
  rw [update_of_leads hleads, moveTo_eq]
  exact scheduleRun_current _

/-- The current exercise changes by the messages that lead to another one, and goes there. -/
theorem current_update_iff (m : Message) (i : Nat) :
    (update store m s h).1.1.current = i ∧ i ≠ s.current ↔ s.Leads m i := by
  constructor
  · rintro ⟨hcurrent, hne⟩
    have hmoves : s.moves m = true := by
      by_contra hno
      have hstill : SamePlace s (update store m s h).1.1 := samePlace_update (by simpa using hno)
      exact hne (hcurrent.symm.trans hstill.current)
    obtain ⟨j, hleads⟩ := moves_iff.1 hmoves
    have hj : (update store m s h).1.1.current = j := current_of_leads hleads
    rwa [← hcurrent, hj]
  · intro hleads
    exact ⟨current_of_leads hleads, hleads.ne⟩

/-! ## What follows a move -/

/-- What a session is like when it has come to another exercise, with the effects of the move. -/
structure Arrives (store : ProgressStore σ) (s : Session) (h : σ)
    (x : Session × List Effect) : Prop where
  /-- The pointer in memory is on the new exercise. -/
  pointer : x.1.catalog.progress.currentExercise = some x.1.currentExercise.name
  /-- If no run was in flight, one of the new exercise is started, and none is remembered. -/
  started : s.running = none → x.2 = [.run x.1.currentExercise] ∧ x.1.rerunPending = false ∧
    x.1.status = some (runningText x.1.currentExercise.name)
  /-- Otherwise one is remembered; the status is cleared, or it says that the save failed. -/
  remembered : s.running.isSome = true → x.2 = [] ∧ x.1.rerunPending = true ∧
    x.1.status = ((Catalog.Call.setCurrent x.1.currentExercise.name).failure? store
      (s.catalog, h)).map unsavedText

/-- A move arrives at the exercise, whatever becomes of the save. -/
theorem moveTo_arrives {i : Nat} (hi : i < s.catalog.size)
    (hbusy : s.rerunPending = true → s.running.isSome = true) :
    Arrives store s h (moveTo store i s h).1 := by
  obtain ⟨e, he⟩ : ∃ e, s.catalog.exercises[i]? = some e := ⟨_, List.getElem?_eq_getElem hi⟩
  have hname : s.nameAt i = e.name := by rw [nameAt, he, Option.getD_some]
  have hmove : Catalog.Moved store e.name s.catalog h
      (Catalog.setCurrent store e.name (s.catalog, h)).1
      (Catalog.setCurrent store e.name (s.catalog, h)).2.1
      (Catalog.setCurrent store e.name (s.catalog, h)).2.2 := Catalog.moved_of_eq rfl
  -- The exercises are as before, so the new session is at the exercise of the position.
  have hcurrent : ∀ t : Session, t.current = i →
      t.catalog = (Catalog.setCurrent store e.name (s.catalog, h)).2.1 →
      t.currentExercise = e := by
    intro t hpos hcatalog
    rw [currentExercise, hcatalog, hmove.exercises, hpos, he, Option.getD_some]
  obtain ⟨j, hpos⟩ := Catalog.exists_position?_of_getElem? he
  rw [moveTo_eq, hname]
  constructor
  · rw [hcurrent _ (scheduleRun_current _) (scheduleRun_catalog _), scheduleRun_catalog]
    exact hmove.pointer hpos
  · intro hidle
    have hfree : s.rerunPending = false := by
      by_contra hpending
      have := hbusy (by simpa using hpending)
      rw [hidle] at this
      cases this
    simp [scheduleRun, hidle, hfree, beginRun, currentExercise]
  · intro hrunning
    rw [hcurrent _ (scheduleRun_current _) (scheduleRun_catalog _)]
    simp [scheduleRun, hrunning, Catalog.Call.failure?]

/-! ## Any other key -/

/-- The view after a key that leads nowhere. -/
def viewAfter (s : Session) : Action → View
  | .toggleHint => s.toggled .hint
  | .toggleList => s.toggled .list
  | .select => .main
  | .dismiss => .main
  | _ => s.view

/-- The cursor after a key that leads nowhere. -/
def cursorAfter (s : Session) : Action → Nat
  | .toggleList => if s.view = .list then s.cursor else s.current
  | .cursorUp => if s.view = .list then s.cursor - 1 else s.cursor
  | .cursorDown =>
      if s.view = .list ∧ s.cursor + 1 < s.catalog.size then s.cursor + 1 else s.cursor
  | _ => s.cursor

/-- What is seen of a key that leads nowhere. -/
structure Shows (s : Session) (a : Action) (s' : Session) : Prop where
  view : s'.view = s.viewAfter a
  cursor : s'.cursor = s.cursorAfter a
  quitting : s'.quitting = (s.quitting || a == .quit)

theorem act_shows {a : Action} (hdest : s.destination? a = none) :
    Shows s a (act store a s h).1.1 := by
  have hstill : (s.quitting || false) = s.quitting := Bool.or_false _
  cases a with
  | quit => exact ⟨rfl, rfl, (Bool.or_true _).symm⟩
  | next =>
      simp only [act, goNext]
      simp only [destination?, ite_eq_right_iff, reduceCtorEq, imp_false, not_and] at hdest
      split
      · rename_i hview
        rw [if_neg (hdest hview)]
        exact ⟨rfl, rfl, hstill.symm⟩
      · exact ⟨rfl, rfl, hstill.symm⟩
  | previous =>
      simp only [act, goBack]
      simp only [destination?, ite_eq_right_iff, reduceCtorEq, imp_false, not_and] at hdest
      split
      · rename_i hview
        rw [if_neg (hdest hview)]
        exact ⟨rfl, rfl, hstill.symm⟩
      · exact ⟨rfl, rfl, hstill.symm⟩
  | select =>
      simp only [act, select]
      simp only [destination?, ite_eq_right_iff, reduceCtorEq, imp_false] at hdest
      rw [if_neg hdest]
      exact ⟨rfl, rfl, hstill.symm⟩
  | toggleHint => exact ⟨rfl, rfl, hstill.symm⟩
  | dismiss => exact ⟨rfl, rfl, hstill.symm⟩
  | toggleList =>
      simp only [act]
      split
      · rename_i hview
        exact ⟨(if_pos hview).symm, (if_pos hview).symm, hstill.symm⟩
      · rename_i hview
        exact ⟨(if_neg hview).symm, (if_neg hview).symm, hstill.symm⟩
  | run =>
      simp only [act]
      split
      · exact ⟨rfl, rfl, hstill.symm⟩
      · exact ⟨rfl, rfl, hstill.symm⟩
  | cursorUp =>
      simp only [act]
      split
      · rename_i hview
        exact ⟨rfl, (if_pos hview).symm, hstill.symm⟩
      · rename_i hview
        exact ⟨rfl, (if_neg hview).symm, hstill.symm⟩
  | cursorDown =>
      simp only [act]
      split
      · rename_i hdown
        exact ⟨rfl, (if_pos hdown).symm, hstill.symm⟩
      · rename_i hdown
        exact ⟨rfl, (if_neg hdown).symm, hstill.symm⟩

/-- Only the list key opens the list. -/
theorem eq_toggleList_of_opened {a : Action} (hclosed : s.view ≠ .list)
    (hopen : s.viewAfter a = .list) : a = .toggleList := by
  cases a with
  | toggleList => rfl
  | toggleHint =>
      simp only [viewAfter, toggled] at hopen
      split at hopen
      · cases hopen
      · cases hopen
  | select => cases hopen
  | dismiss => cases hopen
  | next => exact absurd hopen hclosed
  | previous => exact absurd hopen hclosed
  | run => exact absurd hopen hclosed
  | quit => exact absurd hopen hclosed
  | cursorUp => exact absurd hopen hclosed
  | cursorDown => exact absurd hopen hclosed

theorem scheduleRun_view (s : Session) : s.scheduleRun.1.view = s.view := by
  unfold scheduleRun
  split <;> rfl

theorem scheduleRun_quitting (s : Session) : s.scheduleRun.1.quitting = s.quitting := by
  unfold scheduleRun
  split <;> rfl

/-- Two sessions at the same place that look alike, as far as keys can tell. -/
structure SameStanding (s s' : Session) : Prop extends SamePlace s s' where
  view : s'.view = s.view
  cursor : s'.cursor = s.cursor
  quitting : s'.quitting = s.quitting

/-- A message that is no key changes nothing that keys depend on. -/
theorem sameStanding_update {m : Message} (hm : ∀ a, m ≠ .key a) :
    SameStanding s (update store m s h).1.1 := by
  have hplace : SamePlace s (update store m s h).1.1 := by
    refine samePlace_update ?_
    cases m with
    | key a => exact absurd rfl (hm a)
    | tick => rfl
    | runStarted name => rfl
    | runFinished name v => rfl
    | fileChanged e => rfl
    | watchError error => rfl
    | watcherClosed => rfl
  have hshown : (update store m s h).1.1.view = s.view ∧
      (update store m s h).1.1.cursor = s.cursor ∧
      (update store m s h).1.1.quitting = s.quitting := by
    cases m with
    | key a => exact absurd rfl (hm a)
    | runFinished name v =>
        simp only [update, finishRun]
        split
        · exact ⟨rfl, rfl, rfl⟩
        · exact ⟨rfl, rfl, rfl⟩
    | fileChanged e =>
        simp only [update, scheduleRun]
        split
        · split
          · exact ⟨rfl, rfl, rfl⟩
          · exact ⟨rfl, rfl, rfl⟩
        · exact ⟨rfl, rfl, rfl⟩
    | tick => exact ⟨rfl, rfl, rfl⟩
    | runStarted name => exact ⟨rfl, rfl, rfl⟩
    | watchError error => exact ⟨rfl, rfl, rfl⟩
    | watcherClosed => exact ⟨rfl, rfl, rfl⟩
  exact ⟨hplace, hshown.1, hshown.2.1, hshown.2.2⟩

/-- A message that opens the list puts the cursor at the current exercise. -/
theorem cursor_of_opened {m : Message} (hclosed : s.view ≠ .list)
    (hopen : (update store m s h).1.1.view = .list) :
    (update store m s h).1.1.cursor = (update store m s h).1.1.current := by
  by_cases hm : ∀ a, m ≠ .key a
  · exact absurd ((sameStanding_update hm).view.symm.trans hopen) hclosed
  obtain ⟨a, rfl⟩ : ∃ a, m = .key a := by simpa using hm
  cases hdest : s.destination? a with
  | some i =>
      -- A move ends in the main view.
      rw [update_of_leads (destination?_eq_some_iff.1 hdest), moveTo_eq, scheduleRun_view] at hopen
      cases hopen
  | none =>
      have hshows : Shows s a (update store (.key a) s h).1.1 := act_shows hdest
      have hlist : a = .toggleList := eq_toggleList_of_opened hclosed (hshows.view ▸ hopen)
      subst hlist
      have hstill : SamePlace s (update store (.key .toggleList) s h).1.1 := samePlace_update rfl
      rw [hshows.cursor, hstill.current]
      exact if_neg hclosed

/-! ## All messages -/

variable {c : Catalog} {extension : String}

/-- A run is remembered only while another one is in flight. -/
theorem Reachable.running_of_pending (hs : Reachable store c extension s) :
    s.rerunPending = true → s.running.isSome = true := by
  induction hs with
  | new => exact fun hpending => nomatch hpending
  | start _ _ => exact fun _ => rfl
  | @message s m h hbefore ih =>
      have hout : Outcome s m (update store m s h).1.1 (runs (update store m s h).1.2) :=
        update_outcome m
      generalize (update store m s h).1.1 = s', runs (update store m s h).1.2 = es at hout ⊢
      cases hout with
      | quiet _ _ hrun hpend => rwa [hrun, hpend]
      | told _ hrun => simp [hrun]
      | remembered _ _ hbusy hrun => exact fun _ => hrun ▸ hbusy
      | launched _ _ hrun => simp [hrun]
      | ended _ _ _ hpend => simp [hpend]
      | again _ _ hrun => simp [hrun]

/--
In every state of a session of a catalog with an exercise, the current position and the cursor are
positions of exercises, and whatever message comes, the session finds an exercise wherever it looks
for one.  Opening the list puts the cursor at the current exercise.  The current exercise changes by
a step forward, a step back or a choice from the list, and by nothing else; then the pointer follows
it, the status is a new one, and one automatic run is due.
-/
theorem navigation_law (hc : c.exercises ≠ []) (hs : Reachable store c extension s) (m : Message)
    (h : σ) :
    (s.current < c.size ∧ s.cursor < c.size ∧ s.catalog.size = c.size) ∧
    (s.exercise? = some s.currentExercise ∧ s.beginRun? = some s.beginRun ∧
      update? store m s h = some (update store m s h)) ∧
    (s.view ≠ .list → (update store m s h).1.1.view = .list →
      (update store m s h).1.1.cursor = (update store m s h).1.1.current) ∧
    (∀ i, (update store m s h).1.1.current = i ∧ i ≠ s.current ↔ s.Leads m i) ∧
    ((update store m s h).1.1.current ≠ s.current →
      Arrives store s h (update store m s h).1) := by
  have hrange : s.InRange := hs.inRange hc
  have hsize : s.catalog.size = c.size := by
    rw [Catalog.size_eq_length_names, Catalog.size_eq_length_names]
    exact congrArg List.length (hs.map_exercises Catalog.lasting_name)
  refine ⟨⟨hsize ▸ hrange.current_lt, hsize ▸ hrange.cursor_lt, hsize⟩,
    ⟨exercise?_of_lt hrange.current_lt, beginRun?_of_lt hrange.current_lt, hrange.update?_eq m⟩,
    cursor_of_opened, current_update_iff m, ?_⟩
  intro hmoved
  obtain ⟨i, hleads⟩ : ∃ i, s.Leads m i := ⟨_, (current_update_iff m _).1 ⟨rfl, hmoved⟩⟩
  have hi : i < s.catalog.size := by
    have hlt : (update store m s h).1.1.current < (update store m s h).1.1.catalog.size :=
      (hrange.update m).current_lt
    rwa [size_update, current_of_leads hleads] at hlt
  have harrives : Arrives store { s with view := .main } h
      (moveTo store i { s with view := .main } h).1 := moveTo_arrives hi hs.running_of_pending
  rw [update_of_leads hleads]
  -- Showing the main view has not touched the run status or the catalog.
  exact ⟨harrives.pointer, harrives.started, harrives.remembered⟩

/-- A move that cannot be stored, made while a run is in flight, has all these consequences. -/
theorem navigation_law_refused :
    EventLoop.twoExercises.exercises ≠ [] ∧
      Reachable EventLoop.refusing EventLoop.twoExercises "sh" EventLoop.watching ∧
      EventLoop.watching.Leads (.key .next) 1 ∧
      (update EventLoop.refusing (.key .next) EventLoop.watching ()).1.1.current = 1 ∧
      Arrives EventLoop.refusing EventLoop.watching ()
        (update EventLoop.refusing (.key .next) EventLoop.watching ()).1 := by
  have hc : EventLoop.twoExercises.exercises ≠ [] := by decide
  obtain ⟨turns, hl⟩ := EventLoop.reached_watching
  have hs : Reachable EventLoop.refusing EventLoop.twoExercises "sh" EventLoop.watching :=
    hl.reachable
  have hleads : EventLoop.watching.Leads (.key .next) 1 := .next rfl (by decide)
  have hlaw := navigation_law hc hs (.key .next) ()
  have hcurrent := (hlaw.2.2.2.1 1).2 hleads
  refine ⟨hc, hs, hleads, hcurrent.1, hlaw.2.2.2.2 ?_⟩
  rw [hcurrent.1]
  exact hcurrent.2

end Session
end Trainer
