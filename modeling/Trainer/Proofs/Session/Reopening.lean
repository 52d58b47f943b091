import Mathlib
import Trainer.Proofs.Catalog.Found
import Trainer.Proofs.Catalog.Pointer
import Trainer.Proofs.Session.Place

/-!
# Closing and reopening

A session is closed, and a new one is opened on what is on the disk.  When every save succeeded and
a load finds the exercises as before, the learner is where they were, with everything that was
completed (`reopening_keeps_place`).  What a load finds of the exercises (`Catalog.found`) does not
depend on the progress, but it may on the file that the progress is kept in: below the exercises
directory that file is read as metadata, and there is no reopening once it was stored
(`reopening_lost`).

## The argument

* When no save failed, the stored progress is the one in memory (`History.synced`).
* A load gives the exercises that are found with the flags of the stored progress, so nothing else
  of the old catalog matters (`Catalog.load_of_found`).
* The new session goes by the pointer, and that is on the current exercise (`History.pinned`).
-/

namespace Trainer
namespace Session

open Catalog

variable {σ : Type} {host : Host σ} {paths : CatalogPaths} {c : Catalog} {extension : String}
  {meanwhile : σ → σ → Prop} {log : List (Heard σ)} {s : Session} {h₀ h : σ}

/-! ## What is stored -/

/-- If no save failed, a move that failed was to an exercise that is not in the catalog. -/
theorem History.movesStored {store : ProgressStore σ}
    (hs : History store meanwhile c extension h₀ log s h)
    (hsaved : ∀ x ∈ log, ∀ cause, x.failure? store ≠ some (.unsaved cause)) :
    MovesStored c (log.filterMap (Heard.answered store)) := by
  intro n hn hmem
  obtain ⟨x, hx, hanswer⟩ := List.mem_filterMap.1 hn
  obtain ⟨call, hcall, hpair⟩ := Option.map_eq_some_iff.1 hanswer
  obtain ⟨rfl, hfailed⟩ := Prod.mk.inj hpair
  -- The names of the catalog have been the same at all times.
  obtain ⟨earlier, hearlier⟩ := hs.exists_of_mem hx
  have hnames : x.session.catalog.names = c.names :=
    hearlier.reachable.map_exercises lasting_name
  rcases hset : Catalog.setCurrent store n (x.session.catalog, x.machine) with ⟨r, c', s'⟩
  have hfailure : x.failure? store = complaint? r := by
    simp [Heard.failure?, hcall, Call.failure?, hset]
  simp only [Call.perform, hset] at hfailed
  cases moved_of_eq hset with
  | unknown hpos =>
      obtain ⟨e, he, hname⟩ := List.mem_map.1 (hnames ▸ hmem)
      exact name_ne_of_unknown hpos he hname
  | there => cases hfailed
  | stored => cases hfailed
  | refused => exact hsaved x hx _ hfailure

/-- If no save failed, the stored progress is the one in memory. -/
theorem History.synced (hkeeps : host.Keeps paths.progressFile)
    (hclock : ∀ t, (host.now t).isValid = true) (hload : load host paths h₀ = .ok c)
    (hquiet : ∀ t t', meanwhile t t' →
      host.look paths.progressFile t' = host.look paths.progressFile t)
    (hs : History (host.progressStore paths.progressFile) meanwhile c extension h₀ log s h)
    (hsaved : ∀ x ∈ log, ∀ cause,
      x.failure? (host.progressStore paths.progressFile) ≠ some (.unsaved cause)) :
    Progress.load host paths.progressFile h = .ok s.catalog.progress ∧ s.catalog.Agrees := by
  have hagrees := (hs.accounted hkeeps hclock hload hquiet).agrees
  obtain ⟨hprogress, hfile, -⟩ := exists_of_load hload
  have hmoves := hs.movesStored hsaved
  rw [← hfile] at hs hquiet hmoves
  obtain ⟨hrun, -⟩ := hs.run hquiet
  exact ⟨hrun.synced (accounted_of_load hload) hprogress hkeeps hclock hmoves, hagrees⟩

/-! ## The new session -/

/-- A session that is pinned is opened again at its exercise. -/
theorem Pinned.reopened {c' : Catalog} (hs : s.Pinned)
    (hpointer : c'.progress.currentExercise = s.catalog.progress.currentExercise)
    (hnames : c'.names = s.catalog.names) : (ofCatalog c' extension).current = s.current := by
  obtain ⟨name, hname, hpos⟩ := hs
  have hbind : c'.progress.currentExercise.bind c'.position? = some s.current := by
    rw [hpointer, hname, Option.bind_some, Catalog.position?_congr hnames, hpos]
  change c'.resumePosition = s.current
  simp only [Catalog.resumePosition, hbind]

/-- A pointer that leads to an exercise is where a session begins. -/
theorem pinned_ofCatalog {name : String} (hname : name ∈ c.names) (hnodup : c.names.Nodup)
    (hpointer : c.progress.currentExercise = some name) : (ofCatalog c extension).Pinned := by
  obtain ⟨e, he, rfl⟩ := List.mem_map.1 hname
  obtain ⟨i, hi⟩ := List.getElem?_of_mem he
  have hpos : c.position? e.name = some i := (position?_iff hnodup e.name i).2 ⟨e, hi, rfl⟩
  have hcurrent : i = (ofCatalog c extension).current :=
    pointsHere_ofCatalog c extension e.name i hpointer hpos
  exact ⟨e.name, hpointer, hcurrent ▸ hpos⟩

/-- The name of the current exercise is read off the names. -/
theorem InRange.getElem?_names (hs : s.InRange) :
    s.catalog.names[s.current]? = some s.currentExercise.name := by
  rw [names, List.getElem?_map, hs.getElem?_current, Option.map_some]

/--
In every state of a session, a pointer to an exercise of the catalog is on the current one.  If
every save succeeded, and a load finds the exercises as before, then there is a catalog to go on
with: it has the same flags, and a new session of it is at the same exercise if there was a move or
the session began at a pointer to an exercise.  Without such a pointer it begins at the first
exercise that is not completed.
-/
theorem reopening_keeps_place (hload : load host paths h₀ = .ok c) :
    (∀ (τ : Type) (store : ProgressStore τ) (s : Session), Reachable store c extension s →
      ∀ name ∈ s.catalog.names, s.catalog.progress.currentExercise = some name →
        s.currentExercise.name = name ∧ s.catalog.position? name = some s.current) ∧
    (host.Keeps paths.progressFile → (∀ t, (host.now t).isValid = true) →
      ∀ (log : List (Heard σ)) (s : Session) (h : σ),
        History (host.progressStore paths.progressFile)
          (fun t t' => host.look paths.progressFile t' = host.look paths.progressFile t)
          c extension h₀ log s h →
        (∀ x ∈ log, ∀ cause,
          x.failure? (host.progressStore paths.progressFile) ≠ some (.unsaved cause)) →
        found host paths h = found host paths h₀ →
        ∃ c', load host paths h = .ok c' ∧
          c'.exercises.map (fun e => (e.name, e.completed)) =
            s.catalog.exercises.map (fun e => (e.name, e.completed)) ∧
          ((∃ x ∈ log, x.Moved (host.progressStore paths.progressFile)) ∨
              (∃ name ∈ c.names, c.progress.currentExercise = some name) →
            (ofCatalog c' extension).current = s.current ∧
            (ofCatalog c' extension).currentExercise.name = s.currentExercise.name) ∧
          ((∀ name ∈ s.catalog.names, s.catalog.progress.currentExercise ≠ some name) →
            c'.IsFirstOpen (ofCatalog c' extension).current)) := by
  have hne := exercises_ne_nil_of_load hload
  have hnodup := (agrees_of_load hload).nodup
  refine ⟨?_, ?_⟩
  · intro τ store s hs name hname hpointer
    have hnames : s.catalog.names = c.names := hs.map_exercises lasting_name
    obtain ⟨e, he, rfl⟩ := List.mem_map.1 hname
    obtain ⟨i, hi⟩ := List.getElem?_of_mem he
    have hpos : s.catalog.position? e.name = some i :=
      (position?_iff (hnames ▸ hnodup) e.name i).2 ⟨e, hi, rfl⟩
    obtain rfl : i = s.current := hs.pointsHere hnodup hne e.name i hpointer hpos
    have hcurrent := (hs.inRange hne).getElem?_current
    rw [hi] at hcurrent
    exact ⟨congrArg Exercise.name (Option.some.inj hcurrent).symm, hpos⟩
  · intro hkeeps hclock log s h hs hsaved hfound
    have hnames : s.catalog.names = c.names := hs.reachable.map_exercises lasting_name
    obtain ⟨hsynced, hagrees⟩ := hs.synced hkeeps hclock hload (fun _ _ hlook => hlook) hsaved
    let c' : Catalog :=
      ⟨flagged s.catalog.progress c.exercises, s.catalog.progress, paths.progressFile⟩
    have hload' : load host paths h = .ok c' := load_of_found hload hfound hsynced
    have hnames' : c'.names = s.catalog.names := by
      rw [names_flagged, hnames]
      rfl
    refine ⟨c', hload', ?_, ?_, ?_⟩
    · rw [(agrees_of_load hload').map_flags, hagrees.map_flags, hnames']
    · intro hplace
      have hpinned : s.Pinned := by
        refine hs.pinned hnodup hne (hplace.imp_right ?_)
        rintro ⟨name, hname, hpointer⟩
        exact pinned_ofCatalog hname hnodup hpointer
      have hcurrent : (ofCatalog c' extension).current = s.current :=
        hpinned.reopened rfl hnames'
      refine ⟨hcurrent, ?_⟩
      -- The positions are the same, and so are the names at them.
      have hnew := (inRange_ofCatalog (exercises_ne_nil_of_load hload') extension).getElem?_names
      have hold := (hs.reachable.inRange hne).getElem?_names
      rw [hcurrent] at hnew
      change c'.names[s.current]? = _ at hnew
      rw [hnames', hold] at hnew
      exact (Option.some.inj hnew).symm
    · intro hastray
      refine isFirstOpen_resumePosition fun name hname => hastray name ?_
      rw [← hnames']
      exact hname

/-! ## A project of two exercises -/

/-- A machine with two exercises. -/
def pairShelf : Shelf where
  directories := [⟨"/kata/exercises"⟩]
  files := [
    (⟨"/kata/exercises/a.toml"⟩, twinMetadata "a"), (⟨"/kata/exercises/a.go"⟩, "package main\n"),
    (⟨"/kata/exercises/b.toml"⟩, twinMetadata "b"), (⟨"/kata/exercises/b.go"⟩, "package main\n")]
  full := false

/-- The places there, with the progress in a directory of its own. -/
def pairPaths : CatalogPaths := { helloPaths with progressFile := ⟨"/kata/.kata/progress.toml"⟩ }

/-- The same places, but that directory is among the exercises. -/
def nestedPaths : CatalogPaths :=
  { helloPaths with progressFile := ⟨"/kata/exercises/.kata/progress.toml"⟩ }

def pairFiles : List Path := [⟨"/kata/exercises/a.toml"⟩, ⟨"/kata/exercises/b.toml"⟩]

/-- What is made of some metadata files on a machine. -/
def entriesAt (paths : CatalogPaths) (files : List Path) (s : Shelf) :
    List Exercise × List EntryFailure :=
  loadEntries (loadEntry helloHost ⟨"/kata/exercises"⟩ paths s) [] files

def pairLoaded (paths : CatalogPaths) : Catalog where
  exercises := flagged Progress.fresh (entriesAt paths pairFiles pairShelf).1
  progress := Progress.fresh
  progressFile := paths.progressFile

/-- The learner goes to the main view. -/
def dismissed (paths : CatalogPaths) : Heard Shelf :=
  ⟨.key .dismiss, ofCatalog (pairLoaded paths) "go", pairShelf⟩

/-- The learner goes on to the second exercise. -/
def goneOn (paths : CatalogPaths) : Heard Shelf :=
  ⟨.key .next, { ofCatalog (pairLoaded paths) "go" with view := .main }, pairShelf⟩

/-- The session and the machine after both. -/
def movedOn (paths : CatalogPaths) : (Session × List Effect) × Shelf :=
  update (helloHost.progressStore paths.progressFile) (goneOn paths).message (goneOn paths).session
    (goneOn paths).machine

theorem history_movedOn (paths : CatalogPaths) (meanwhile : Shelf → Shelf → Prop) :
    History (helloHost.progressStore paths.progressFile) meanwhile (pairLoaded paths) "go"
      pairShelf [goneOn paths, dismissed paths] (movedOn paths).1.1 (movedOn paths).2 := by
  have hfirst : History (helloHost.progressStore paths.progressFile) meanwhile (pairLoaded paths)
      "go" pairShelf [dismissed paths] (goneOn paths).session (goneOn paths).machine :=
    .message (.key .dismiss) .new
  unfold movedOn
  exact hfirst.hear

/-- What a load sees of the two exercises on a machine. -/
def SeesPair (paths : CatalogPaths) (s : Shelf) : Prop :=
  helloHost.isDirectory paths.exercisesDir s = true ∧
    helloHost.canonical paths.exercisesDir s = .ok ⟨"/kata/exercises"⟩ ∧
    (helloHost.filesBelow ⟨"/kata/exercises"⟩ s).filter (isMetadata paths.scaffoldFile) =
      pairFiles ∧
    entriesAt paths pairFiles s = ((entriesAt paths pairFiles pairShelf).1, [])

instance (paths : CatalogPaths) (s : Shelf) : Decidable (SeesPair paths s) :=
  inferInstanceAs (Decidable (_ ∧ _))

theorem SeesPair.found_eq {paths : CatalogPaths} {s : Shelf} (hs : SeesPair paths s) :
    found helloHost paths s = .ok (entriesAt paths pairFiles pairShelf).1 := by
  obtain ⟨hdir, hroot, hlist, hentries⟩ := hs
  have hsorted : pairFiles.Pairwise fun p q => Path.le p q = true := by decide +kernel
  exact found_of_entries hdir hroot hlist hsorted (List.cons_ne_nil _ _) hentries

/-- The two messages at either place, in one evaluation: the second exercise is the current one. -/
theorem pair_moved : ∀ paths ∈ [pairPaths, nestedPaths], SeesPair paths pairShelf ∧
    Progress.load helloHost paths.progressFile pairShelf = .ok Progress.fresh ∧
    (∀ x ∈ [goneOn paths, dismissed paths],
      x.failure? (helloHost.progressStore paths.progressFile) = none) ∧
    (goneOn paths).Moved (helloHost.progressStore paths.progressFile) ∧
    (movedOn paths).1.1.current = 1 := by
  decide +kernel

theorem load_pair {paths : CatalogPaths} (hpaths : paths ∈ [pairPaths, nestedPaths]) :
    load helloHost paths pairShelf = .ok (pairLoaded paths) := by
  obtain ⟨hsees, hprogress, -⟩ := pair_moved paths hpaths
  rw [load_eq_found, hsees.found_eq, hprogress]
  rfl

/-- The learner is at the second exercise, and so is the session that is opened after that. -/
theorem reopening_keeps_place_pair :
    load helloHost pairPaths pairShelf = .ok (pairLoaded pairPaths) ∧
    History (helloHost.progressStore pairPaths.progressFile)
      (fun t t' => helloHost.look pairPaths.progressFile t' =
        helloHost.look pairPaths.progressFile t)
      (pairLoaded pairPaths) "go" pairShelf [goneOn pairPaths, dismissed pairPaths]
      (movedOn pairPaths).1.1 (movedOn pairPaths).2 ∧
    ∃ c', load helloHost pairPaths (movedOn pairPaths).2 = .ok c' ∧
      (ofCatalog c' "go").current = 1 := by
  have hpaths : pairPaths ∈ [pairPaths, nestedPaths] := by simp
  obtain ⟨hsees, -, hsaved, hmoved, hafter⟩ := pair_moved pairPaths hpaths
  have hside : Progress.sidePath pairPaths.progressFile ≠ pairPaths.progressFile := by
    decide +kernel
  have hkeeps : helloHost.Keeps pairPaths.progressFile := Shelf.keeps _ hside
  have hthen : SeesPair pairPaths (movedOn pairPaths).2 := by decide +kernel
  have hfound : found helloHost pairPaths (movedOn pairPaths).2 =
      found helloHost pairPaths pairShelf := by
    rw [hthen.found_eq, hsees.found_eq]
  have hs := history_movedOn pairPaths fun t t' =>
    helloHost.look pairPaths.progressFile t' = helloHost.look pairPaths.progressFile t
  obtain ⟨c', hload', -, hplace, -⟩ := (reopening_keeps_place (load_pair hpaths)).2 hkeeps
    (fun _ => rfl) _ _ _ hs (fun x hx cause hcause => by rw [hsaved x hx] at hcause; cases hcause)
    hfound
  have hcurrent := (hplace (.inl ⟨_, List.mem_cons_self, hmoved⟩)).1
  exact ⟨load_pair hpaths, hs, c', hload', hcurrent.trans hafter⟩

/--
With the progress among the exercises there is no reopening: once the move is stored, the stored
progress is read as the metadata of an exercise.
-/
theorem reopening_lost :
    load helloHost nestedPaths pairShelf = .ok (pairLoaded nestedPaths) ∧
    History (helloHost.progressStore nestedPaths.progressFile)
      (fun t t' => helloHost.look nestedPaths.progressFile t' =
        helloHost.look nestedPaths.progressFile t)
      (pairLoaded nestedPaths) "go" pairShelf [goneOn nestedPaths, dismissed nestedPaths]
      (movedOn nestedPaths).1.1 (movedOn nestedPaths).2 ∧
    ((∀ x ∈ [goneOn nestedPaths, dismissed nestedPaths],
        x.failure? (helloHost.progressStore nestedPaths.progressFile) = none) ∧
      (goneOn nestedPaths).Moved (helloHost.progressStore nestedPaths.progressFile)) ∧
    ¬ ∃ c', load helloHost nestedPaths (movedOn nestedPaths).2 = .ok c' := by
  have hpaths : nestedPaths ∈ [pairPaths, nestedPaths] := by simp
  obtain ⟨-, -, hsaved, hmoved, -⟩ := pair_moved nestedPaths hpaths
  refine ⟨load_pair hpaths, history_movedOn nestedPaths _, ⟨hsaved, hmoved⟩, ?_⟩
  rintro ⟨c', hload⟩
  let files := nestedPaths.progressFile :: pairFiles
  have hsorted : files.Pairwise fun p q => Path.le p q = true := by decide +kernel
  -- Three files are listed now, and one of them cannot be read as metadata.
  obtain ⟨hdir, hlist, hfailed⟩ :
      helloHost.isDirectory nestedPaths.exercisesDir (movedOn nestedPaths).2 = true ∧
      (helloHost.filesBelow ⟨"/kata/exercises"⟩ (movedOn nestedPaths).2).filter
        (isMetadata nestedPaths.scaffoldFile) = files ∧
      (entriesAt nestedPaths files (movedOn nestedPaths).2).2 ≠ [] := by
    decide +kernel
  have hroot : helloHost.canonical nestedPaths.exercisesDir (movedOn nestedPaths).2 =
      .ok ⟨"/kata/exercises"⟩ := rfl
  have hentries := Prod.eta (entriesAt nestedPaths files (movedOn nestedPaths).2)
  rw [load_eq_found, found_of_entries hdir hroot hlist hsorted (List.cons_ne_nil _ _)
    hentries.symm, if_neg hfailed] at hload
  cases hload

end Session
end Trainer
