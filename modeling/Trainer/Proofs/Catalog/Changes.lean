import Mathlib
import Trainer.Catalog
import Trainer.Proofs.Progress.Record

/-!
# What a change does to a catalog

Each operation of a catalog has a small number of endings.  They are listed once, with everything
that holds in each of them (`Marked`, `Counted`, `Moved`), so that a law about catalogs is proved
by going through the endings and never by unfolding an operation.

* no operation changes which exercises there are, their order, or what their authors have said of
  them (`Marked.map`, `Counted.map`, `Moved.exercises`);
* no operation changes where progress is kept (`Marked.progressFile`, `Counted.progressFile`,
  `Moved.progressFile`);
* marking and counting leave the pointer (`Marked.pointer`, `Counted.pointer`), and a move brings it
  to its exercise (`Moved.pointer`).
-/

namespace Trainer
namespace Catalog

variable {σ : Type} {store : ProgressStore σ} {c c' : Catalog} {s s' : σ} {name : String}

def names (c : Catalog) : List String :=
  c.exercises.map (·.name)

/-- A reading of an exercise that does not depend on what the learner has done. -/
structure Lasting {β : Type} (f : Exercise → β) : Prop where
  completed : ∀ (e : Exercise) (done : Bool), f { e with completed := done } = f e
  recordAttempt : ∀ (e : Exercise) (now : Timestamp), f (e.recordAttempt now) = f e

theorem lasting_name : Lasting Exercise.name :=
  ⟨fun _ _ => rfl, fun _ _ => rfl⟩

theorem lasting_sourcePath : Lasting Exercise.sourcePath :=
  ⟨fun _ _ => rfl, fun _ _ => rfl⟩

section Lasting

variable {β : Type} {f : Exercise → β}

theorem map_modify {g : Exercise → Exercise} (hg : ∀ e, f (g e) = f e) (i : Nat)
    (l : List Exercise) : (l.modify i g).map f = l.map f := by
  refine List.ext_getElem? fun j => ?_
  rw [List.getElem?_map, List.getElem?_map, List.getElem?_modify]
  by_cases hij : i = j
  · cases l[j]? <;> simp [hij, hg]
  · cases l[j]? <;> simp [hij]

/-- What does not depend on the learner's doing is the same after a flag is set. -/
theorem Lasting.setFlag (hf : Lasting f) (c : Catalog) (i : Nat) (done : Bool) :
    (c.setFlag i done).exercises.map f = c.exercises.map f :=
  map_modify (fun e => hf.completed e done) i c.exercises

end Lasting

@[simp] theorem names_setFlag (c : Catalog) (i : Nat) (done : Bool) :
    (c.setFlag i done).names = c.names :=
  lasting_name.setFlag c i done

@[simp] theorem progress_setFlag (c : Catalog) (i : Nat) (done : Bool) :
    (c.setFlag i done).progress = c.progress := rfl

theorem size_eq_length_names (c : Catalog) : c.size = c.names.length := by
  simp [size, names]

/-- The exercise at the position of a name has that name. -/
theorem getElem?_of_position? {i : Nat} (h : c.position? name = some i) :
    ∃ e, c.exercises[i]? = some e ∧ e.name = name := by
  obtain ⟨hi, hname, -⟩ := List.findIdx?_eq_some_iff_getElem.1 h
  exact ⟨c.exercises[i], List.getElem?_eq_getElem hi, by simpa using hname⟩

theorem position?_lt_size {i : Nat} (h : c.position? name = some i) : i < c.size := by
  obtain ⟨hi, -, -⟩ := List.findIdx?_eq_some_iff_getElem.1 h
  exact hi

/-! ## Marking an exercise completed -/

/-- The catalog with an exercise marked completed, in the catalog and in the record. -/
def marked (c : Catalog) (i : Nat) (name : String) (now : Timestamp) : Catalog :=
  { c.setFlag i true with progress := c.progress.setCompleted name now }

/-- The endings of `markCompleted`: its answer, and the catalog and the state after it. -/
inductive Marked (store : ProgressStore σ) (name : String) (c : Catalog) (s : σ) :
    Except Failure Bool → Catalog → σ → Prop where
  | unknown : c.position? name = none → Marked store name c s (.error (.notFound name)) c s
  | already {i : Nat} : c.position? name = some i → c.flagAt i = true →
      c.progress.isCompleted name = true → Marked store name c s (.ok false) c s
  | stored {i : Nat} {s' : σ} : c.position? name = some i →
      ¬(c.flagAt i = true ∧ c.progress.isCompleted name = true) →
      store.save (c.progress.setCompleted name (store.now s)) s = (.ok (), s') →
      Marked store name c s (.ok true) (c.marked i name (store.now s)) s'
  | refused {i : Nat} {cause : Progress.SaveFailure} {s' : σ} : c.position? name = some i →
      ¬(c.flagAt i = true ∧ c.progress.isCompleted name = true) →
      store.save (c.progress.setCompleted name (store.now s)) s = (.error cause, s') →
      Marked store name c s (.error (.unsaved cause))
        (c.setFlag i (c.progress.isCompleted name)) s'

/-- The cases of `Marked` are all that `markCompleted` can come to. -/
theorem marked_of_eq {r : Except Failure Bool}
    (h : markCompleted store name (c, s) = (r, (c', s'))) : Marked store name c s r c' s' := by
  simp only [markCompleted] at h
  split at h
  case h_1 hpos =>
    cases h
    exact .unknown hpos
  case h_2 i hpos =>
    split at h
    case isTrue hdone =>
      cases h
      rw [Bool.and_eq_true] at hdone
      exact .already hpos hdone.1 hdone.2
    case isFalse hdone =>
      rw [Bool.and_eq_true] at hdone
      split at h
      case h_1 hsave =>
        cases h
        exact .stored hpos hdone hsave
      case h_2 hsave =>
        cases h
        exact .refused hpos hdone hsave

theorem Marked.map {β : Type} {f : Exercise → β} (hf : Lasting f) {r : Except Failure Bool}
    (h : Marked store name c s r c' s') : c'.exercises.map f = c.exercises.map f := by
  cases h with
  | unknown => rfl
  | already => rfl
  | stored => exact hf.setFlag c _ true
  | refused => exact hf.setFlag c _ _

theorem Marked.names {r : Except Failure Bool} (h : Marked store name c s r c' s') :
    c'.names = c.names :=
  h.map lasting_name

theorem Marked.progressFile {r : Except Failure Bool} (h : Marked store name c s r c' s') :
    c'.progressFile = c.progressFile := by
  cases h <;> rfl

theorem Marked.pointer {r : Except Failure Bool} (h : Marked store name c s r c' s') :
    c'.progress.currentExercise = c.progress.currentExercise := by
  cases h with
  | unknown => rfl
  | already => rfl
  | stored => exact Progress.currentExercise_setCompleted _ _ _
  | refused => rfl

/-! ## Counting an attempt -/

/-- The catalog with one attempt more at a position. -/
def counted (c : Catalog) (i : Nat) (now : Timestamp) : Catalog :=
  { c with exercises := c.exercises.modify i fun e => e.recordAttempt now }

theorem Lasting.counted {β : Type} {f : Exercise → β} (hf : Lasting f) (c : Catalog) (i : Nat)
    (now : Timestamp) : (c.counted i now).exercises.map f = c.exercises.map f :=
  map_modify (fun e => hf.recordAttempt e now) i c.exercises

@[simp] theorem names_counted (c : Catalog) (i : Nat) (now : Timestamp) :
    (c.counted i now).names = c.names :=
  lasting_name.counted c i now

@[simp] theorem progress_counted (c : Catalog) (i : Nat) (now : Timestamp) :
    (c.counted i now).progress = c.progress := rfl

def attemptsAt (c : Catalog) (i : Nat) : Nat :=
  (c.exercises[i]?.map (·.attempts)).getD 0

/-- The endings of `recordAttempt`; a success is counted first and then marked. -/
inductive Counted (store : ProgressStore σ) (name : String) (success : Bool) (c : Catalog) (s : σ) :
    Except Failure Nat → Catalog → σ → Prop where
  | unknown : c.position? name = none →
      Counted store name success c s (.error (.notFound name)) c s
  | failed {i : Nat} : c.position? name = some i → success = false →
      Counted store name success c s (.ok ((c.counted i (store.now s)).attemptsAt i))
        (c.counted i (store.now s)) s
  | passed {i : Nat} {first : Bool} {c' : Catalog} {s' : σ} :
      c.position? name = some i → success = true →
      Marked store name (c.counted i (store.now s)) s (.ok first) c' s' →
      Counted store name success c s (.ok ((c.counted i (store.now s)).attemptsAt i)) c' s'
  | refused {i : Nat} {f : Failure} {c' : Catalog} {s' : σ} :
      c.position? name = some i → success = true →
      Marked store name (c.counted i (store.now s)) s (.error f) c' s' →
      Counted store name success c s (.error f) c' s'

/-- The cases of `Counted` are all that `recordAttempt` can come to. -/
theorem counted_of_eq {success : Bool} {r : Except Failure Nat}
    (h : recordAttempt store name success (c, s) = (r, (c', s'))) :
    Counted store name success c s r c' s' := by
  simp only [recordAttempt] at h
  split at h
  case h_1 hpos =>
    cases h
    exact .unknown hpos
  case h_2 i hpos =>
    split at h
    case isTrue hsuccess =>
      split at h
      case h_1 hmark =>
        cases h
        exact .passed hpos hsuccess (marked_of_eq hmark)
      case h_2 hmark =>
        cases h
        exact .refused hpos hsuccess (marked_of_eq hmark)
    case isFalse hsuccess =>
      cases h
      exact .failed hpos (by simpa using hsuccess)

/-- Counting an attempt changes only what the learner has done. -/
theorem Counted.map {β : Type} {f : Exercise → β} (hf : Lasting f) {success : Bool}
    {r : Except Failure Nat} (h : Counted store name success c s r c' s') :
    c'.exercises.map f = c.exercises.map f := by
  cases h with
  | unknown => rfl
  | failed => exact hf.counted c _ _
  | passed _ _ hmark => exact (hmark.map hf).trans (hf.counted c _ _)
  | refused _ _ hmark => exact (hmark.map hf).trans (hf.counted c _ _)

theorem Counted.names {success : Bool} {r : Except Failure Nat}
    (h : Counted store name success c s r c' s') : c'.names = c.names :=
  h.map lasting_name

theorem Counted.progressFile {success : Bool} {r : Except Failure Nat}
    (h : Counted store name success c s r c' s') : c'.progressFile = c.progressFile := by
  cases h with
  | unknown => rfl
  | failed => rfl
  | passed _ _ hmark => exact hmark.progressFile
  | refused _ _ hmark => exact hmark.progressFile

theorem Counted.pointer {success : Bool} {r : Except Failure Nat}
    (h : Counted store name success c s r c' s') :
    c'.progress.currentExercise = c.progress.currentExercise := by
  cases h with
  | unknown => rfl
  | failed => rfl
  | passed _ _ hmark => exact hmark.pointer
  | refused _ _ hmark => exact hmark.pointer

/-! ## Moving the pointer -/

/-- The endings of `setCurrent`. -/
inductive Moved (store : ProgressStore σ) (name : String) (c : Catalog) (s : σ) :
    Except Failure Unit → Catalog → σ → Prop where
  | unknown : c.position? name = none → Moved store name c s (.error (.notFound name)) c s
  | there {i : Nat} : c.position? name = some i → c.progress.currentExercise = some name →
      Moved store name c s (.ok ()) c s
  | stored {i : Nat} {s' : σ} : c.position? name = some i →
      c.progress.currentExercise ≠ some name →
      store.save (c.progress.setCurrent name (store.now s)) s = (.ok (), s') →
      Moved store name c s (.ok ())
        { c with progress := c.progress.setCurrent name (store.now s) } s'
  | refused {i : Nat} {cause : Progress.SaveFailure} {s' : σ} : c.position? name = some i →
      c.progress.currentExercise ≠ some name →
      store.save (c.progress.setCurrent name (store.now s)) s = (.error cause, s') →
      Moved store name c s (.error (.unsaved cause))
        { c with progress := c.progress.setCurrent name (store.now s) } s'

/-- The cases of `Moved` are all that `setCurrent` can come to. -/
theorem moved_of_eq {r : Except Failure Unit}
    (h : setCurrent store name (c, s) = (r, (c', s'))) : Moved store name c s r c' s' := by
  simp only [setCurrent] at h
  split at h
  case h_1 hpos =>
    cases h
    exact .unknown hpos
  case h_2 i hpos =>
    split at h
    case isTrue hthere =>
      cases h
      exact .there hpos hthere
    case isFalse hthere =>
      split at h
      case h_1 hsave =>
        cases h
        exact .stored hpos hthere hsave
      case h_2 hsave =>
        cases h
        exact .refused hpos hthere hsave

theorem Moved.exercises {r : Except Failure Unit} (h : Moved store name c s r c' s') :
    c'.exercises = c.exercises := by
  cases h <;> rfl

theorem Moved.names {r : Except Failure Unit} (h : Moved store name c s r c' s') :
    c'.names = c.names := by
  rw [Catalog.names, h.exercises, Catalog.names]

theorem Moved.progressFile {r : Except Failure Unit} (h : Moved store name c s r c' s') :
    c'.progressFile = c.progressFile := by
  cases h <;> rfl

/-- A move to an exercise changes the pointer in memory, even if it cannot be stored. -/
theorem Moved.pointer {r : Except Failure Unit} {i : Nat} (h : Moved store name c s r c' s')
    (hpos : c.position? name = some i) : c'.progress.currentExercise = some name := by
  have hmoved (now : Timestamp) : (c.progress.setCurrent name now).currentExercise = some name := by
    unfold Progress.setCurrent
    split
    · assumption
    · rfl
  cases h with
  | unknown hno =>
      rw [hpos] at hno
      cases hno
  | there _ hthere => exact hthere
  | stored => exact hmoved _
  | refused => exact hmoved _

end Catalog
end Trainer
