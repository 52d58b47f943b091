import Mathlib
import Trainer.Proofs.Catalog.Agreement
import Trainer.Proofs.Session.Position

/-!
# Changes cut where they save

A change of stored progress saves at most once.  So it can be cut there: at a time of the clock it
comes to an answer at once, or to the progress that is to be saved and what follows each answer of
the save.  A `Plan` is such a cut, and it describes a change when every store, whatever it answers
and whatever its states are, carries the change out as it carries out the plan (`Plan.Describes`).

* Every change of a catalog and every message of a session has a plan (`exists_plan_setCurrent`,
  `exists_plan_recordAttempt`, `exists_plan_update`), and only one (`Plan.Describes.unique`).
* The plan of a change keeps the record of completions or adds to it, and what follows the save has
  the record that was saved, or the old one if the save failed (`Plan.Keeps`).
-/

namespace Trainer

/-- An answer, or a save and what follows its answer. -/
inductive Plan (α : Type) where
  | done (a : α)
  | save (p : Progress) (next : Except Progress.SaveFailure Unit → α)

/-- A change of stored progress, for every store. -/
abbrev StoredChange (α : Type) := ∀ τ : Type, ProgressStore τ → τ → α × τ

namespace Plan

variable {α β : Type}

def perform {τ : Type} (store : ProgressStore τ) : Plan α → τ → α × τ
  | done a, t => (a, t)
  | save p next, t => (next (store.save p t).1, (store.save p t).2)

/-- At a time of the clock, a change comes to the plan for every store. -/
def Describes (plan : Plan α) (now : Timestamp) (change : StoredChange α) : Prop :=
  ∀ (τ : Type) (store : ProgressStore τ) (t : τ), store.now t = now →
    change τ store t = plan.perform store t

/-- What is done with the result of a change is done with the result of its plan. -/
def map (f : α → β) : Plan α → Plan β
  | done a => done (f a)
  | save p next => save p fun answer => f (next answer)

/-- What a plan gives back can be changed without changing what it stores. -/
theorem perform_map {τ : Type} (f : α → β) (plan : Plan α) (store : ProgressStore τ) (t : τ) :
    (plan.map f).perform store t = (f (plan.perform store t).1, (plan.perform store t).2) := by
  cases plan with
  | done a => rfl
  | save p next => rfl

theorem Describes.map {plan : Plan α} {now : Timestamp} {change : StoredChange α}
    (h : plan.Describes now change) (f : α → β) :
    (plan.map f).Describes now fun τ store t =>
      (f (change τ store t).1, (change τ store t).2) := by
  intro τ store t htime
  have hplan := h τ store t htime
  rw [perform_map, ← hplan]

end Plan

/-- A store that notes what it is asked to save and gives an answer. -/
def ProgressStore.noting (now : Timestamp) (answer : Except Progress.SaveFailure Unit) :
    ProgressStore (List Progress) where
  now := fun _ => now
  save := fun p noted => (answer, p :: noted)

namespace Plan

variable {α : Type} {plan plan' : Plan α} {now : Timestamp} {change : StoredChange α}

/-- A change has at most one plan: a store that notes what it is asked tells two plans apart. -/
theorem Describes.unique (h : plan.Describes now change) (h' : plan'.Describes now change) :
    plan = plan' := by
  have hsame (answer : Except Progress.SaveFailure Unit) :
      plan.perform (.noting now answer) [] = plan'.perform (.noting now answer) [] := by
    rw [← h _ (.noting now answer) [] rfl, ← h' _ (.noting now answer) [] rfl]
  cases plan with
  | done a =>
      cases plan' with
      | done b =>
          have heq := hsame (.ok ())
          simp only [perform, Prod.mk.injEq] at heq
          rw [heq.1]
      | save p next =>
          have heq := hsame (.ok ())
          simp [perform, ProgressStore.noting] at heq
  | save p next =>
      cases plan' with
      | done b =>
          have heq := hsame (.ok ())
          simp [perform, ProgressStore.noting] at heq
      | save q next' =>
          -- Every answer shows what follows it, and what was noted shows what was saved.
          have hnext : next = next' := by
            funext answer
            have heq := hsame answer
            simp only [perform, ProgressStore.noting, Prod.mk.injEq] at heq
            exact heq.1
          have hsaved := hsame (.ok ())
          simp only [perform, ProgressStore.noting, Prod.mk.injEq, List.cons.injEq] at hsaved
          rw [hnext, hsaved.2.1]

end Plan

/-! ## The record of completions -/

/-- A catalog with a record of completions, its flags and its file in order. -/
structure Catalog.Holds (c : Catalog) (file : Path) (record : List (String × Bool)) : Prop where
  agrees : c.Agrees
  progressFile : c.progressFile = file
  record : c.progress.exercises = record

namespace Plan

variable {α β : Type} {plan : Plan α} {now : Timestamp} {record : List (String × Bool)}
  {fits : List (String × Bool) → α → Prop}

/-- What a plan can come to. -/
def Ends : Plan α → α → Prop
  | done a, b => b = a
  | save _ next, b => ∃ answer, b = next answer

/--
A plan keeps the record of completions, where `fits` says whether what it comes to fits a record:
without a save the record is as before; what is saved has at least the completions of the record,
and becomes the record just if the save succeeds.
-/
inductive Keeps (fits : List (String × Bool) → α → Prop) (record : List (String × Bool))
    (now : Timestamp) : Plan α → Prop
  | done {a : α} (same : fits record a) : Keeps fits record now (.done a)
  | save {p : Progress} {next : Except Progress.SaveFailure Unit → α}
      (ordered : Progress.Ordered p.exercises) (time : p.lastUpdated = some now)
      (grows : ∀ n, record.lookup n = some true → p.exercises.lookup n = some true)
      (stored : fits p.exercises (next (.ok ())))
      (refused : ∀ cause, fits record (next (.error cause))) :
      Keeps fits record now (.save p next)

theorem Keeps.map {fits' : List (String × Bool) → β → Prop} {f : α → β}
    (h : plan.Keeps fits record now)
    (hf : ∀ record a, plan.Ends a → fits record a → fits' record (f a)) :
    (plan.map f).Keeps fits' record now := by
  cases h with
  | done same => exact .done (hf _ _ rfl same)
  | save ordered time grows stored refused =>
      exact .save ordered time grows (hf _ _ ⟨_, rfl⟩ stored) fun cause =>
        hf _ _ ⟨_, rfl⟩ (refused cause)

/-- Every ending of the plan of a change is an ending of the change. -/
theorem Describes.exists_of_ends {change : StoredChange α} (h : plan.Describes now change) {a : α}
    (ha : plan.Ends a) : ∃ (store : ProgressStore (List Progress)) (noted : List Progress),
      change _ store [] = (a, noted) := by
  cases plan with
  | done b =>
      rw [Ends] at ha
      refine ⟨.noting now (.ok ()), [], ?_⟩
      rw [ha]
      exact h _ (.noting now (.ok ())) [] rfl
  | save p next =>
      obtain ⟨answer, rfl⟩ := ha
      exact ⟨.noting now answer, [p], h _ (.noting now answer) [] rfl⟩

end Plan

namespace Catalog

variable {c : Catalog} {name : String} {now : Timestamp}

/-- The answer of a change of a catalog together with the catalog. -/
def regroup {ε τ : Type} (x : ε × (Catalog × τ)) : (ε × Catalog) × τ :=
  ((x.1, x.2.1), x.2.2)

/-! ## Where a change saves -/

section Saves

variable {τ : Type} {store : ProgressStore τ} {t : τ} {i : Nat}

/-- Marking an open exercise saves first and sets the flag only if that went well. -/
theorem markCompleted_of_open (hpos : c.position? name = some i)
    (hopen : ¬(c.flagAt i = true ∧ c.progress.isCompleted name = true)) :
    markCompleted store name (c, t) =
      match store.save (c.progress.setCompleted name (store.now t)) t with
      | (.ok (), t') => (.ok true, (c.marked i name (store.now t), t'))
      | (.error cause, t') =>
          (.error (.unsaved cause), (c.setFlag i (c.progress.isCompleted name), t')) := by
  rw [← Bool.and_eq_true] at hopen
  rcases hsave : store.save (c.progress.setCompleted name (store.now t)) t with ⟨answer, t'⟩
  cases answer with
  | ok u => simp [markCompleted, marked, hpos, hopen, hsave]
  | error cause => simp [markCompleted, hpos, hopen, hsave]

/-- Recording a success counts it first, and then marks the exercise. -/
theorem recordAttempt_of_success (hpos : c.position? name = some i) :
    recordAttempt store name true (c, t) =
      match markCompleted store name (c.counted i (store.now t), t) with
      | (.ok _, ct) => (.ok ((c.counted i (store.now t)).attemptsAt i), ct)
      | (.error f, ct) => (.error f, ct) := by
  rcases hmark : markCompleted store name (c.counted i (store.now t), t) with ⟨answer, ct⟩
  rw [counted] at hmark
  cases answer with
  | ok first => simp [recordAttempt, hpos, hmark, attemptsAt, counted]
  | error f => simp [recordAttempt, hpos, hmark]

/-- A move to another exercise changes memory first, and saves then. -/
theorem setCurrent_of_elsewhere (hpos : c.position? name = some i)
    (helse : c.progress.currentExercise ≠ some name) :
    setCurrent store name (c, t) =
      match store.save (c.progress.setCurrent name (store.now t)) t with
      | (.ok (), t') =>
          (.ok (), ({ c with progress := c.progress.setCurrent name (store.now t) }, t'))
      | (.error cause, t') => (.error (.unsaved cause),
          ({ c with progress := c.progress.setCurrent name (store.now t) }, t')) := by
  rcases hsave : store.save (c.progress.setCurrent name (store.now t)) t with ⟨answer, t'⟩
  cases answer with
  | ok u => simp [setCurrent, hpos, helse, hsave]
  | error cause => simp [setCurrent, hpos, helse, hsave]

end Saves

/-! ## Plans of a catalog -/

/-- What follows the save of a marking. -/
def afterMark (c : Catalog) (i : Nat) (name : String) (now : Timestamp) :
    Except Progress.SaveFailure Unit → Except Failure Bool × Catalog
  | .ok () => (.ok true, c.marked i name now)
  | .error cause => (.error (.unsaved cause), c.setFlag i (c.progress.isCompleted name))

/-- What follows the save of a move. -/
def afterSet (moved : Catalog) : Except Progress.SaveFailure Unit → Except Failure Unit × Catalog
  | .ok () => (.ok (), moved)
  | .error cause => (.error (.unsaved cause), moved)

/-- The answer of a marking, reworded as the number of attempts. -/
def withAttempts (attempts : Nat) (x : Except Failure Bool × Catalog) :
    Except Failure Nat × Catalog :=
  (x.1.map fun _ => attempts, x.2)

/-- What a change comes to fits a record if its catalog has that record. -/
def Fits {ε : Type} (file : Path) (record : List (String × Bool)) (x : ε × Catalog) : Prop :=
  x.2.Holds file record

variable {file : Path} {record : List (String × Bool)}

/-- There is a plan for marking an exercise, and it stores what fits. -/
theorem exists_plan_markCompleted (hc : c.Holds file record) (name : String) (now : Timestamp) :
    ∃ plan : Plan (Except Failure Bool × Catalog),
      plan.Describes now (fun _ store t => regroup (markCompleted store name (c, t))) ∧
        plan.Keeps (Fits file) record now := by
  cases hpos : c.position? name with
  | none =>
      refine ⟨.done (.error (.notFound name), c), ?_, .done hc⟩
      intro τ store t _
      simp [markCompleted, hpos, regroup, Plan.perform]
  | some i =>
      by_cases hdone : c.flagAt i = true ∧ c.progress.isCompleted name = true
      · refine ⟨.done (.ok false, c), ?_, .done hc⟩
        intro τ store t _
        simp [markCompleted, hpos, hdone, regroup, Plan.perform]
      · obtain ⟨hagrees, rfl, rfl⟩ := hc
        have hnew := hagrees.not_isCompleted hpos hdone
        have hok : Marked (.noting now (.ok ())) name c [] (.ok true) (c.marked i name now)
            [c.progress.setCompleted name now] := .stored hpos hdone rfl
        have herror (cause : Progress.SaveFailure) : Marked (.noting now (.error cause)) name c []
            (.error (.unsaved cause)) (c.setFlag i (c.progress.isCompleted name))
            [c.progress.setCompleted name now] := .refused hpos hdone rfl
        refine ⟨.save (c.progress.setCompleted name now) (c.afterMark i name now), ?_, ?_⟩
        · intro τ store t htime
          beta_reduce
          rw [markCompleted_of_open hpos hdone, htime, Plan.perform]
          rcases store.save (c.progress.setCompleted name now) t with ⟨answer, t'⟩
          cases answer with
          | ok u => rfl
          | error cause => rfl
        · refine .save (Progress.setCompleted_ordered now hagrees.ordered) ?_ ?_
            ⟨hagrees.marked hok, rfl, rfl⟩ fun cause => ⟨hagrees.marked (herror cause), rfl, rfl⟩
          · rw [Progress.setCompleted_of_not_isCompleted hnew]
          · intro n hn
            rw [Progress.lookup_setCompleted]
            split
            · rfl
            · exact hn

/-- There is a plan for counting an attempt, and it stores what fits. -/
theorem exists_plan_recordAttempt (hc : c.Holds file record) (name : String) (success : Bool)
    (now : Timestamp) : ∃ plan : Plan (Except Failure Nat × Catalog),
      plan.Describes now (fun _ store t => regroup (recordAttempt store name success (c, t))) ∧
        plan.Keeps (Fits file) record now := by
  cases hpos : c.position? name with
  | none =>
      refine ⟨.done (.error (.notFound name), c), ?_, .done hc⟩
      intro τ store t _
      simp [recordAttempt, hpos, regroup, Plan.perform]
  | some i =>
      have hcounted : (c.counted i now).Holds file record :=
        ⟨hc.agrees.countedAt i now, hc.progressFile, hc.record⟩
      cases success with
      | false =>
          refine ⟨.done (.ok ((c.counted i now).attemptsAt i), c.counted i now), ?_,
            .done hcounted⟩
          intro τ store t htime
          simp only [recordAttempt, hpos, htime]
          rfl
      | true =>
          -- A success is counted and then marked, and the answer of the marking is reworded.
          obtain ⟨plan, hplan, hkeeps⟩ := exists_plan_markCompleted hcounted name now
          let reword := withAttempts ((c.counted i now).attemptsAt i)
          refine ⟨plan.map reword, ?_, hkeeps.map fun _ _ _ h => h⟩
          intro τ store t htime
          have hmark := hplan.map reword τ store t htime
          beta_reduce at hmark ⊢
          rw [recordAttempt_of_success hpos, htime, ← hmark]
          rcases markCompleted store name (c.counted i now, t) with ⟨answer, c', t'⟩
          cases answer with
          | ok first => rfl
          | error f => rfl

/-- There is a plan for moving the pointer, and it stores what fits. -/
theorem exists_plan_setCurrent (hc : c.Holds file record) (name : String) (now : Timestamp) :
    ∃ plan : Plan (Except Failure Unit × Catalog),
      plan.Describes now (fun _ store t => regroup (setCurrent store name (c, t))) ∧
        plan.Keeps (Fits file) record now := by
  cases hpos : c.position? name with
  | none =>
      refine ⟨.done (.error (.notFound name), c), ?_, .done hc⟩
      intro τ store t _
      simp [setCurrent, hpos, regroup, Plan.perform]
  | some i =>
      by_cases hthere : c.progress.currentExercise = some name
      · refine ⟨.done (.ok (), c), ?_, .done hc⟩
        intro τ store t _
        simp [setCurrent, hpos, hthere, regroup, Plan.perform]
      · obtain ⟨hagrees, rfl, rfl⟩ := hc
        let moved : Catalog := { c with progress := c.progress.setCurrent name now }
        have hrecord : moved.progress.exercises = c.progress.exercises :=
          Progress.exercises_setCurrent _ _ _
        have hmove : Moved (.noting now (.ok ())) name c [] (.ok ()) moved
            [c.progress.setCurrent name now] := .stored hpos hthere rfl
        have hmoved := hagrees.moved hmove
        refine ⟨.save moved.progress (afterSet moved), ?_, ?_⟩
        · intro τ store t htime
          beta_reduce
          rw [setCurrent_of_elsewhere hpos hthere, htime, Plan.perform]
          rcases store.save moved.progress t with ⟨answer, t'⟩
          cases answer with
          | ok u => rfl
          | error cause => rfl
        · refine .save hmoved.ordered ?_ ?_ ⟨hmoved, rfl, rfl⟩ fun cause => ⟨hmoved, rfl, hrecord⟩
          · change (c.progress.setCurrent name now).lastUpdated = some now
            rw [Progress.setCurrent, if_neg hthere]
          · intro n hn
            rw [hrecord]
            exact hn

end Catalog

namespace Session

variable {s : Session} {now : Timestamp} {file : Path} {record : List (String × Bool)}

/-! ## Plans of a session -/

/-- What a message comes to fits a record if the catalog of the session has that record. -/
def Fits (file : Path) (record : List (String × Bool)) (x : Session × List Effect) : Prop :=
  x.1.catalog.Holds file record

/-- A change of a session has a plan that keeps the record. -/
def Planned (file : Path) (record : List (String × Bool)) (now : Timestamp)
    (change : StoredChange (Session × List Effect)) : Prop :=
  ∃ plan : Plan (Session × List Effect),
    plan.Describes now change ∧ plan.Keeps (Fits file) record now

/-- A change that never saves, and leaves the catalog as it is. -/
theorem planned_of_still (hs : s.catalog.Holds file record)
    {change : StoredChange (Session × List Effect)} {result : Session × List Effect}
    (hstill : ∀ τ store t, change τ store t = (result, t))
    (hcatalog : result.1.catalog = s.catalog) : Planned file record now change := by
  refine ⟨.done result, ?_, .done ?_⟩
  · intro τ store t _
    exact hstill τ store t
  · rw [Fits, hcatalog]
    exact hs

/-- A session that has gone to the exercise at a position. -/
def placedAt (s : Session) (i : Nat) : Session :=
  { s with current := i, cursor := i, status := none }

/-- What follows the change of the pointer in a session that goes to another exercise. -/
def afterMove (s : Session) (x : Except Catalog.Failure Unit × Catalog) : Session × List Effect :=
  match x.1 with
  | .ok () => scheduleRun { s with catalog := x.2 }
  | .error f => scheduleRun { s with catalog := x.2, status := some (unsavedText f) }

theorem catalog_afterMove (s : Session) (x : Except Catalog.Failure Unit × Catalog) :
    (s.afterMove x).1.catalog = x.2 := by
  unfold afterMove
  split
  · exact scheduleRun_catalog _
  · exact scheduleRun_catalog _

/-- A move in a session goes by a plan. -/
theorem planned_moveTo (hs : s.catalog.Holds file record) (i : Nat) :
    Planned file record now fun _ store h => moveTo store i s h := by
  have hplaced : (s.placedAt i).catalog.Holds file record := hs
  obtain ⟨plan, hplan, hkeeps⟩ :=
    Catalog.exists_plan_setCurrent hplaced (s.placedAt i).currentExercise.name now
  refine ⟨plan.map (s.placedAt i).afterMove, ?_, hkeeps.map fun record x _ hx => ?_⟩
  · intro τ store h htime
    have hmove := hplan.map (s.placedAt i).afterMove τ store h htime
    beta_reduce at hmove ⊢
    rw [← hmove, moveTo, ← placedAt]
    rcases Catalog.setCurrent store (s.placedAt i).currentExercise.name
      ((s.placedAt i).catalog, h) with ⟨answer, c, h'⟩
    cases answer with
    | ok u => rfl
    | error f => rfl
  · rw [Fits, catalog_afterMove]
    exact hx

/-- What follows the count of an attempt in a session whose run is over. -/
def afterRun (s : Session) (name : String) (v : Verdict)
    (x : Except Catalog.Failure Nat × Catalog) : Session × List Effect :=
  let status :=
    match x.1 with
    | .ok attempts => finishedText name v.success (s.wouldComplete name) attempts
    | .error f => unsavedText f
  let ended : Session :=
    { s with running := none, catalog := x.2, status := some status, latest := some v }
  if s.rerunPending then beginRun { ended with rerunPending := false } else (ended, [])

theorem catalog_afterRun (s : Session) (name : String) (v : Verdict)
    (x : Except Catalog.Failure Nat × Catalog) : (s.afterRun name v x).1.catalog = x.2 := by
  simp only [afterRun]
  split <;> rfl

/-- The end of a run in a session goes by a plan. -/
theorem planned_finishRun (hs : s.catalog.Holds file record) (name : String) (v : Verdict) :
    Planned file record now fun _ store h => finishRun store name v s h := by
  obtain ⟨plan, hplan, hkeeps⟩ := Catalog.exists_plan_recordAttempt hs name v.success now
  refine ⟨plan.map (s.afterRun name v), ?_, hkeeps.map fun record x _ hx => ?_⟩
  · intro τ store h htime
    have hcount := hplan.map (s.afterRun name v) τ store h htime
    beta_reduce at hcount ⊢
    rw [← hcount]
    simp only [finishRun]
    rcases Catalog.recordAttempt store name v.success (s.catalog, h) with ⟨answer, c, h'⟩
    cases answer with
    | ok attempts =>
        cases hpending : s.rerunPending <;> simp [afterRun, Catalog.regroup, hpending]
    | error f => cases hpending : s.rerunPending <;> simp [afterRun, Catalog.regroup, hpending]
  · rw [Fits, catalog_afterRun]
    exact hx

/-- Whatever a key asks of a session goes by a plan. -/
theorem planned_act (hs : s.catalog.Holds file record) (a : Action) :
    Planned file record now fun _ store h => act store a s h := by
  cases hdest : s.destination? a with
  | none =>
      obtain ⟨x, hstays, hact⟩ := act_of_no_destination hdest
      exact planned_of_still hs hact hstays.catalog
  | some i =>
      simp only [act_of_destination? hdest]
      exact planned_moveTo (s := { s with view := .main }) hs i

/-- Every message has a plan. -/
theorem exists_plan_update (hs : s.catalog.Holds file record) (m : Message) (now : Timestamp) :
    Planned file record now fun _ store h => update store m s h := by
  cases m with
  | key a => exact planned_act hs a
  | tick => exact planned_of_still hs (fun _ _ _ => rfl) rfl
  | runStarted name => exact planned_of_still hs (fun _ _ _ => rfl) rfl
  | runFinished name v => exact planned_finishRun hs name v
  | fileChanged e =>
      have hcatalog : (if s.accepts e then s.scheduleRun else (s, [])).1.catalog = s.catalog := by
        split
        · exact scheduleRun_catalog s
        · rfl
      have hstill (τ : Type) (store : ProgressStore τ) (h : τ) :
          update store (.fileChanged e) s h =
            (((if s.accepts e then s.scheduleRun else (s, [])).1,
              (if s.accepts e then s.scheduleRun else (s, [])).2 ++ [.awaitFileEvent]), h) := rfl
      exact planned_of_still hs hstill hcatalog
  | watchError error => exact planned_of_still hs (fun _ _ _ => rfl) rfl
  | watcherClosed => exact planned_of_still hs (fun _ _ _ => rfl) rfl

end Session
end Trainer
