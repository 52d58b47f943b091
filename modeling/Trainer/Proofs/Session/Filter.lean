import Mathlib
import Trainer.Proofs.Catalog.Extension
import Trainer.Proofs.Config
import Trainer.Proofs.Progress.Shelf
import Trainer.Proofs.Session.Position

/-!
# Which saves are noticed

A session accepts a write to the source of its current exercise if that source has the configured
extension.  One would have every such write accepted, since the source was named with that extension
when the catalog was loaded.  It is so exactly if the extension is one that a path can have: with a
dot or a slash in it the configuration is taken, the catalog loads, and no save is ever noticed
(`Session.accepts_iff`).

## The argument

* Whatever has happened to a session, its exercises have the sources they were loaded with, and the
  extension that it looks for is the one it was made with (`Reachable.map_exercises`,
  `Reachable.sourceExtension_eq`).
* So the current source is named after a metadata file (`Reachable.isSource_current`), and what
  extension it has was settled when it was loaded (`Catalog.IsSource.hasExtension_iff`).
-/

namespace Trainer
namespace Session

variable {σ : Type} {store : ProgressStore σ} {c : Catalog} {extension : String} {s : Session}
  {h : σ} {e : FileEvent}

/-! ## The current source -/

/-- The current source is one of those the catalog was loaded with. -/
theorem Reachable.isSource_current {τ : Type} {host : Host τ} {paths : CatalogPaths} {t : τ}
    (hload : Catalog.load host paths t = .ok c) (hs : Reachable store c extension s) :
    Catalog.IsSource paths s.currentExercise.sourcePath := by
  have hrange : InRange s := hs.inRange (Catalog.exercises_ne_nil_of_load hload)
  have hmem : s.currentExercise ∈ s.catalog.exercises :=
    List.mem_of_getElem? hrange.getElem?_current
  have hsource : s.currentExercise.sourcePath ∈ c.exercises.map (·.sourcePath) := by
    rw [← hs.map_exercises Catalog.lasting_sourcePath]
    exact List.mem_map_of_mem hmem
  exact Catalog.isSource_of_load hload _ hsource

/-! ## What a session does with an event -/

/-- The source of the current exercise was written. -/
def SavesCurrent (s : Session) (e : FileEvent) : Prop :=
  e.kind = .write ∧ e.path.same s.currentExercise.sourcePath = true

instance (s : Session) (e : FileEvent) : Decidable (s.SavesCurrent e) :=
  inferInstanceAs (Decidable (_ ∧ _))

/-- An event is followed by a run of the current exercise, at once or after the one in flight. -/
structure Answers (store : ProgressStore σ) (s : Session) (h : σ) (e : FileEvent) : Prop where
  idle : s.running = none →
    runs (update store (.fileChanged e) s h).1.2 = [s.currentExercise]
  busy : s.running.isSome = true →
    runs (update store (.fileChanged e) s h).1.2 = [] ∧
      (update store (.fileChanged e) s h).1.1.rerunPending = true

/-- An event changes nothing and is followed by no run. -/
structure PassesOver (store : ProgressStore σ) (s : Session) (h : σ) (e : FileEvent) : Prop where
  unchanged : (update store (.fileChanged e) s h).1.1 = s
  runs_eq_nil : runs (update store (.fileChanged e) s h).1.2 = []

/-- An event that the filter accepts is answered. -/
theorem answers_of_accepts (hacc : s.accepts e = true) : Answers store s h e := by
  have hturn : update store (.fileChanged e) s h =
      ((s.scheduleRun.1, s.scheduleRun.2 ++ [.awaitFileEvent]), h) := by
    simp only [update, hacc, if_true]
  constructor
  · intro hidle
    rw [hturn, runs_append_await]
    simp [scheduleRun, hidle, beginRun]
  · intro hbusy
    rw [hturn, runs_append_await]
    simp [scheduleRun, hbusy]

/-- An event that the filter does not accept is passed over. -/
theorem passesOver_of_not_accepts (hacc : s.accepts e = false) : PassesOver store s h e := by
  have hturn : update store (.fileChanged e) s h = ((s, [] ++ [.awaitFileEvent]), h) := by
    simp [update, hacc]
  constructor
  · rw [hturn]
  · rw [hturn, runs_append_await, runs_nil]

/-- Whether a save is accepted depends on the extension of the source alone. -/
theorem accepts_eq_true_iff : s.accepts e = true ↔
    s.SavesCurrent e ∧
      Toolchain.hasExtension s.currentExercise.sourcePath s.sourceExtension = true := by
  rw [accepts, Bool.and_eq_true, Bool.and_eq_true, beq_iff_eq]
  constructor
  · rintro ⟨⟨hkind, hext⟩, hsame⟩
    refine ⟨⟨hkind, hsame⟩, ?_⟩
    rw [Toolchain.hasExtension, ← Path.extension?_congr hsame]
    exact hext
  · rintro ⟨⟨hkind, hsame⟩, hext⟩
    refine ⟨⟨hkind, ?_⟩, hsame⟩
    rw [Toolchain.hasExtension, Path.extension?_congr hsame]
    exact hext

/--
In every session of a project that is configured and loaded, an event is accepted exactly if the
source of the current exercise was written and the configured extension has neither a dot nor a
slash.  Such an event is followed by a run, and any other one by nothing.
-/
theorem accepts_iff {τ : Type} {host : Host τ} {project : Path} {t₀ t : τ} {config : Config}
    (hconfig : Config.load host project t₀ = .ok config)
    (hload : Catalog.load host (.ofConfig config) t = .ok c)
    (hs : Reachable store c config.toolchain.sourceExtension s) (h : σ) (e : FileEvent) :
    (s.accepts e = true ↔
      s.SavesCurrent e ∧ Path.IsExtension config.toolchain.sourceExtension) ∧
    (s.SavesCurrent e ∧ Path.IsExtension config.toolchain.sourceExtension →
      Answers store s h e) ∧
    (¬ (s.SavesCurrent e ∧ Path.IsExtension config.toolchain.sourceExtension) →
      PassesOver store s h e) := by
  have hne : config.toolchain.sourceExtension ≠ "" := Config.sourceExtension_ne_empty hconfig
  have hsource : Catalog.IsSource (.ofConfig config) s.currentExercise.sourcePath :=
    hs.isSource_current hload
  have hiff : s.accepts e = true ↔
      s.SavesCurrent e ∧ Path.IsExtension config.toolchain.sourceExtension := by
    rw [accepts_eq_true_iff, hs.sourceExtension_eq]
    exact and_congr_right fun _ => hsource.hasExtension_iff hne
  refine ⟨hiff, ?_, ?_⟩
  · intro hsaved
    exact answers_of_accepts (hiff.2 hsaved)
  · intro hother
    have hacc : s.accepts e = false := by
      simpa using fun hacc => hother (hiff.1 hacc)
    exact passesOver_of_not_accepts hacc

/-! ## A project with one exercise -/

section Project

/-- A machine with a project whose sources have a given extension. -/
def projectShelf (extension : String) : Shelf where
  directories := [⟨"/kata/exercises"⟩]
  files := [
    (⟨"/kata/kata.toml"⟩,
      "[toolchain]\nsource_extension = \"" ++ extension ++ "\"\nbuild = \"true\"\n"),
    (⟨"/kata/exercises/hello.toml"⟩,
      "[exercise]\nname = \"hello\"\n\n[description]\ntitle = \"Hello\"\n\n" ++
        "[validation]\nmode = \"build\"\n\n[hints]\nlevel_1 = \"Say it.\"\n"),
    (⟨"/kata/exercises/hello." ++ extension⟩, "echo hello\n")]
  full := false

def projectHost : Host Shelf :=
  Shelf.host ⟨2024, 5, 17, 8, 30, 0, 0⟩

def projectConfig (extension : String) : Config :=
  (Config.load projectHost ⟨"/kata"⟩ (projectShelf extension)).toOption.getD default

def projectCatalog (extension : String) : Catalog :=
  (Catalog.load projectHost (.ofConfig (projectConfig extension))
    (projectShelf extension)).toOption.getD default

def projectSave (extension : String) : FileEvent where
  path := ⟨"/kata/exercises/hello." ++ extension⟩
  kind := .write

def projectStore (extension : String) : ProgressStore Shelf :=
  projectHost.progressStore (projectConfig extension).progressPath

def projectSession (extension : String) : Session :=
  (ofCatalog (projectCatalog extension) extension).start.1

/-- What the project with the extension of shell scripts comes to, in one evaluation. -/
theorem project_sh :
    Config.load projectHost ⟨"/kata"⟩ (projectShelf "sh") = .ok (projectConfig "sh") ∧
      Catalog.load projectHost (.ofConfig (projectConfig "sh")) (projectShelf "sh") =
        .ok (projectCatalog "sh") ∧
      (projectConfig "sh").toolchain.sourceExtension = "sh" ∧
      (projectSession "sh").SavesCurrent (projectSave "sh") := by
  decide +kernel

/-- The same for an extension of two parts. -/
theorem project_tarball :
    Config.load projectHost ⟨"/kata"⟩ (projectShelf "tar.gz") = .ok (projectConfig "tar.gz") ∧
      Catalog.load projectHost (.ofConfig (projectConfig "tar.gz")) (projectShelf "tar.gz") =
        .ok (projectCatalog "tar.gz") ∧
      (projectConfig "tar.gz").toolchain.sourceExtension = "tar.gz" ∧
      (projectSession "tar.gz").SavesCurrent (projectSave "tar.gz") ∧
      (projectSession "tar.gz").accepts (projectSave "tar.gz") = false := by
  decide +kernel

/-- With an extension that a path can have a save during the first run is remembered. -/
theorem accepts_iff_sh :
    Config.load projectHost ⟨"/kata"⟩ (projectShelf "sh") = .ok (projectConfig "sh") ∧
      Catalog.load projectHost (.ofConfig (projectConfig "sh")) (projectShelf "sh") =
        .ok (projectCatalog "sh") ∧
      Reachable (projectStore "sh") (projectCatalog "sh") "sh" (projectSession "sh") ∧
      (projectSession "sh").SavesCurrent (projectSave "sh") ∧
      (projectSession "sh").running.isSome = true ∧
      (update (projectStore "sh") (.fileChanged (projectSave "sh")) (projectSession "sh")
        (projectShelf "sh")).1.1.rerunPending = true := by
  obtain ⟨hconfig, hload, hext, hsaves⟩ := project_sh
  have hs : Reachable (projectStore "sh") (projectCatalog "sh") "sh" (projectSession "sh") :=
    .start .new
  have hs' : Reachable (projectStore "sh") (projectCatalog "sh")
      (projectConfig "sh").toolchain.sourceExtension (projectSession "sh") := by
    rw [hext]
    exact hs
  have hfits : Path.IsExtension (projectConfig "sh").toolchain.sourceExtension := by
    rw [hext]
    decide
  have hanswer := (accepts_iff hconfig hload hs' (projectShelf "sh") (projectSave "sh")).2.1
    ⟨hsaves, hfits⟩
  exact ⟨hconfig, hload, hs, hsaves, rfl, (hanswer.busy rfl).2⟩

/-- With an extension of two parts the project loads, and a save of the source is passed over. -/
theorem tarball_save_not_noticed :
    Config.load projectHost ⟨"/kata"⟩ (projectShelf "tar.gz") = .ok (projectConfig "tar.gz") ∧
      Catalog.load projectHost (.ofConfig (projectConfig "tar.gz")) (projectShelf "tar.gz") =
        .ok (projectCatalog "tar.gz") ∧
      (projectConfig "tar.gz").toolchain.sourceExtension = "tar.gz" ∧
      Reachable (projectStore "tar.gz") (projectCatalog "tar.gz") "tar.gz"
        (projectSession "tar.gz") ∧
      (projectSession "tar.gz").SavesCurrent (projectSave "tar.gz") ∧
      (projectSession "tar.gz").accepts (projectSave "tar.gz") = false ∧
      PassesOver (projectStore "tar.gz") (projectSession "tar.gz") (projectShelf "tar.gz")
        (projectSave "tar.gz") := by
  obtain ⟨hconfig, hload, hext, hsaves, hacc⟩ := project_tarball
  have hs : Reachable (projectStore "tar.gz") (projectCatalog "tar.gz") "tar.gz"
      (projectSession "tar.gz") := .start .new
  exact ⟨hconfig, hload, hext, hs, hsaves, hacc, passesOver_of_not_accepts hacc⟩

end Project

end Session
end Trainer
