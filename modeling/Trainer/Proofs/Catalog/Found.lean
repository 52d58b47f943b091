import Mathlib
import Trainer.Proofs.Catalog.Agreement

/-!
# What a load finds

A load first finds the exercises and then gives them the flags of the stored progress
(`load_eq_found`).  What it finds does not depend on the progress, so where the same exercises are
found, the same are loaded, with the flags of the day (`load_of_found`).  Where a session begins is
read off the pointer and the flags: without a pointer to an exercise it is the first one that is
not completed (`isFirstOpen_resumePosition`).
-/

namespace Trainer
namespace Catalog

variable {σ : Type} {host : Host σ} {paths : CatalogPaths} {c : Catalog} {s s' : σ}

/-! ## What a load finds -/

/-- The exercises that a load finds, before it looks at the progress. -/
def found (host : Host σ) (paths : CatalogPaths) (s : σ) : Except LoadFailure (List Exercise) :=
  if !host.isDirectory paths.exercisesDir s then .error (.missingDirectory paths.exercisesDir)
  else
    match host.canonical paths.exercisesDir s with
    | .error cause => .error (.unresolved paths.exercisesDir cause)
    | .ok root =>
        let files := metadataFiles paths.scaffoldFile (host.filesBelow root s)
        if files.isEmpty then .error (.empty root)
        else
          let (exercises, failures) := loadEntries (loadEntry host root paths s) [] files
          if !failures.isEmpty then .error (.invalid failures) else .ok exercises

/-- The exercises with the flags that progress gives them. -/
def flagged (p : Progress) (exercises : List Exercise) : List Exercise :=
  exercises.map fun e => { e with completed := p.isCompleted e.name }

/-- A load is what it finds of the exercises and what it reads of the progress. -/
theorem load_eq_found (host : Host σ) (paths : CatalogPaths) (s : σ) : load host paths s =
    match found host paths s with
    | .error f => .error f
    | .ok exercises =>
        match Progress.load host paths.progressFile s with
        | .error cause => .error (.progress cause)
        | .ok p => .ok ⟨flagged p exercises, p, paths.progressFile⟩ := by
  unfold load found
  cases host.isDirectory paths.exercisesDir s with
  | false => rfl
  | true =>
      cases host.canonical paths.exercisesDir s with
      | error cause => rfl
      | ok root =>
          dsimp only
          cases (metadataFiles paths.scaffoldFile (host.filesBelow root s)).isEmpty with
          | true => rfl
          | false =>
              rcases loadEntries (loadEntry host root paths s) []
                (metadataFiles paths.scaffoldFile (host.filesBelow root s)) with
                ⟨exercises, failures⟩
              cases failures with
              | nil => rfl
              | cons f rest => rfl

/-- What is found when the metadata files are listed in order. -/
theorem found_of_entries {root : Path} {files : List Path} {exercises : List Exercise}
    {failures : List EntryFailure} (hdir : host.isDirectory paths.exercisesDir s = true)
    (hroot : host.canonical paths.exercisesDir s = .ok root)
    (hlist : (host.filesBelow root s).filter (isMetadata paths.scaffoldFile) = files)
    (hsorted : files.Pairwise fun p q => Path.le p q = true) (hne : files ≠ [])
    (hentries : loadEntries (loadEntry host root paths s) [] files = (exercises, failures)) :
    found host paths s = if failures = [] then .ok exercises else .error (.invalid failures) := by
  have hfiles : metadataFiles paths.scaffoldFile (host.filesBelow root s) = files := by
    rw [metadataFiles, hlist]
    exact List.mergeSort_of_pairwise hsorted
  have hfull : files.isEmpty = false := by simpa using hne
  rw [found, hdir, hroot]
  simp only [Bool.not_true, Bool.false_eq_true, if_false, hfiles, hfull, hentries]
  cases failures with
  | nil => rfl
  | cons f rest => rfl

@[simp] theorem names_flagged (p q : Progress) (exercises : List Exercise) (file : Path) :
    (Catalog.mk (flagged p exercises) q file).names = exercises.map (·.name) := by
  simp [names, flagged]

/-- Setting flags anew forgets the ones before. -/
theorem flagged_flagged (p q : Progress) (exercises : List Exercise) :
    flagged p (flagged q exercises) = flagged p exercises := by
  simp [flagged]

/-- Where the same exercises are found, the same exercises are loaded, with the flags of the day. -/
theorem load_of_found {p : Progress} (hload : load host paths s = .ok c)
    (hfound : found host paths s' = found host paths s)
    (hp : Progress.load host paths.progressFile s' = .ok p) :
    load host paths s' = .ok ⟨flagged p c.exercises, p, paths.progressFile⟩ := by
  rw [load_eq_found] at hload
  rw [load_eq_found, hfound, hp]
  cases hexercises : found host paths s with
  | error f =>
      rw [hexercises] at hload
      cases hload
  | ok exercises =>
      rw [hexercises] at hload
      dsimp only at hload
      split at hload
      · cases hload
      · cases hload
        rw [flagged_flagged]

/-- Flags that agree with the record are read off the record. -/
theorem Agrees.map_flags (hc : c.Agrees) : c.exercises.map (fun e => (e.name, e.completed)) =
    c.names.map fun n => (n, c.progress.isCompleted n) := by
  rw [names, List.map_map]
  refine List.map_congr_left fun e he => ?_
  rw [hc.flags e he]
  rfl

/-! ## Where a session begins -/

/-- A position is that of the first exercise that is not completed; if there is none, the first. -/
def IsFirstOpen (c : Catalog) (i : Nat) : Prop :=
  (∃ e, c.exercises[i]? = some e ∧ e.completed = false ∧
    ∀ j < i, ∀ e', c.exercises[j]? = some e' → e'.completed = true) ∨
  (∀ e ∈ c.exercises, e.completed = true) ∧ i = 0

/-- A session begins at the exercise that is pointed at, or else at the first open one. -/
theorem resumePosition_cases (c : Catalog) :
    (∃ e, c.exercises[c.resumePosition]? = some e ∧ c.progress.currentExercise = some e.name) ∨
    (∀ name ∈ c.names, c.progress.currentExercise ≠ some name) ∧
      c.IsFirstOpen c.resumePosition := by
  cases hpointer : c.progress.currentExercise.bind c.position? with
  | some i =>
      obtain ⟨name, hname, hpos⟩ := Option.bind_eq_some_iff.1 hpointer
      obtain ⟨e, he, rfl⟩ := getElem?_of_position? hpos
      simp only [resumePosition, hpointer]
      exact .inl ⟨e, he, hname⟩
  | none =>
      refine .inr ⟨fun name hname hthere => ?_, ?_⟩
      · obtain ⟨e, he, rfl⟩ := List.mem_map.1 hname
        rw [hthere, Option.bind_some] at hpointer
        simpa using List.findIdx?_eq_none_iff.1 hpointer e he
      simp only [resumePosition, hpointer]
      cases hfirst : c.exercises.findIdx? fun e => !e.completed with
      | none =>
          refine .inr ⟨fun e he => ?_, rfl⟩
          have hdone := List.findIdx?_eq_none_iff.1 hfirst e he
          simpa using hdone
      | some i =>
          obtain ⟨hi, hopen, hbefore⟩ := List.findIdx?_eq_some_iff_getElem.1 hfirst
          refine .inl ⟨c.exercises[i], List.getElem?_eq_getElem hi, by simpa using hopen, ?_⟩
          intro j hj e' he'
          obtain ⟨hlt, rfl⟩ := List.getElem?_eq_some_iff.1 he'
          simpa using hbefore j hj

/-- Without a pointer that leads to an exercise, the first open exercise is next. -/
theorem isFirstOpen_resumePosition
    (hastray : ∀ name ∈ c.names, c.progress.currentExercise ≠ some name) :
    c.IsFirstOpen c.resumePosition := by
  rcases c.resumePosition_cases with ⟨e, he, hpointer⟩ | ⟨-, hopen⟩
  · exact absurd hpointer (hastray e.name (List.mem_map_of_mem (List.mem_of_getElem? he)))
  · exact hopen

end Catalog

end Trainer
