import Mathlib
import Trainer.Proofs.Catalog.Agreement
import Trainer.Proofs.Catalog.Listing

/-!
# The extension of a source

A source is named by putting a dot and the configured extension behind the stem of its metadata
file.  Which extension a path has is read off behind the last dot of its last name.  The two fit
together exactly when the configured extension is one a path can have, without a dot and without a
slash (`IsSource.hasExtension_iff`).  A configuration only has to name an extension that is not
blank (`Config.sourceExtension_ne_empty`).
-/

namespace Trainer

namespace Catalog

/-! ## Where exercises come from -/

section Loop

variable {load : Path → Except EntryFailure Exercise} {files : List Path}

/-- Every exercise of a catalog comes from a file of its own. -/
theorem mem_loadEntries {taken : List Exercise} {e : Exercise}
    (he : e ∈ (loadEntries load taken files).1) : e ∈ taken ∨ ∃ p ∈ files, load p = .ok e := by
  induction files generalizing taken with
  | nil => exact Or.inl he
  | cons p rest ih =>
      have hrest : ∀ {before : List Exercise}, e ∈ (loadEntries load before rest).1 →
          e ∈ before ∨ ∃ q ∈ p :: rest, load q = .ok e := by
        intro before hmem
        rcases ih hmem with hbefore | ⟨q, hq, hload⟩
        · exact Or.inl hbefore
        · exact Or.inr ⟨q, List.mem_cons_of_mem p hq, hload⟩
      rw [loadEntries] at he
      split at he
      · exact hrest he
      · rename_i e' hp
        split at he
        · exact hrest he
        · rcases hrest he with hmem | hlater
          · rcases List.mem_append.1 hmem with htaken | hnew
            · exact Or.inl htaken
            · rw [List.mem_singleton.1 hnew]
              exact Or.inr ⟨p, List.mem_cons_self, hp⟩
          · exact Or.inr hlater

/-- Every file makes an exercise or a failure. -/
theorem length_loadEntries (taken : List Exercise) :
    (loadEntries load taken files).1.length + (loadEntries load taken files).2.length =
      taken.length + files.length := by
  induction files generalizing taken with
  | nil => rfl
  | cons p rest ih =>
      rw [loadEntries]
      split
      · simp only [List.length_cons, ← Nat.add_assoc, ih]
      · split
        · simp only [List.length_cons, ← Nat.add_assoc, ih]
        · rw [ih, List.length_append, List.length_singleton, List.length_cons, Nat.add_right_comm,
            ← Nat.add_assoc]

end Loop

variable {σ : Type} {host : Host σ} {paths : CatalogPaths} {c : Catalog} {s : σ}

/-- A catalog that is loaded has an exercise. -/
theorem exercises_ne_nil_of_load (h : load host paths s = .ok c) : c.exercises ≠ [] := by
  obtain ⟨root, files, exercises, hfiles, -, hloop, -, -, hexercises⟩ := exists_entries_of_load h
  have hcount : (loadEntries (loadEntry host root paths s) [] files).1.length +
      (loadEntries (loadEntry host root paths s) [] files).2.length = 0 + files.length :=
    length_loadEntries []
  rw [hloop] at hcount
  have hpos : 0 < files.length := List.length_pos_iff.2 hfiles
  have hlength : exercises.length = files.length := by
    simpa using hcount
  have hne : exercises ≠ [] := List.length_pos_iff.1 (hlength ▸ hpos)
  rw [hexercises]
  simpa using hne

/-- A path that is named like the source of a metadata file. -/
def IsSource (paths : CatalogPaths) (p : Path) : Prop :=
  ∃ (dir : Path) (base : String), Path.IsName (base ++ ".toml") ∧
    p = dir.join (sourceName paths (base ++ ".toml"))

theorem isSource_of_loadEntry {root p : Path} {e : Exercise}
    (hmeta : isMetadata paths.scaffoldFile p = true)
    (h : loadEntry host root paths s p = .ok e) : IsSource paths e.sourcePath := by
  obtain ⟨base, hname⟩ : ∃ base, p.fileName? = some (base ++ ".toml") := by
    unfold isMetadata at hmeta
    split at hmeta
    · cases hmeta
    · rename_i name hname
      obtain ⟨base, rfl⟩ := (endsWith_toml_iff name).1 (Bool.and_eq_true_iff.1 hmeta).1
      exact ⟨base, hname⟩
  obtain ⟨content, m, v, -, -, -, -, rfl⟩ := exists_metadata_of_loadEntry h
  refine ⟨p.parent?.getD root, base, Path.isName_of_fileName? hname, ?_⟩
  simp only [exerciseOf, Path.stem?, hname, Option.map_some, Option.getD_some]
  rfl

/-- Every exercise of a loaded catalog was read from a metadata file, and has the flag of the record. -/
theorem exists_loadEntry_of_load (h : load host paths s = .ok c) {e : Exercise}
    (he : e ∈ c.exercises) : ∃ root p e₀, isMetadata paths.scaffoldFile p = true ∧
      loadEntry host root paths s p = .ok e₀ ∧
      e = { e₀ with completed := c.progress.isCompleted e₀.name } := by
  obtain ⟨root, files, exercises, -, hmeta, hloop, -, -, hexercises⟩ := exists_entries_of_load h
  rw [hexercises] at he
  obtain ⟨e₀, he₀, rfl⟩ := List.mem_map.1 he
  have hread : e₀ ∈ (loadEntries (loadEntry host root paths s) [] files).1 := by
    rw [hloop]
    exact he₀
  rcases mem_loadEntries hread with hno | ⟨p, hp, hload⟩
  · cases hno
  · exact ⟨root, p, e₀, hmeta p hp, hload, rfl⟩

/-- The sources of a catalog are named after its metadata files. -/
theorem isSource_of_load (h : load host paths s = .ok c) :
    ∀ p ∈ c.exercises.map (·.sourcePath), IsSource paths p := by
  intro p hp
  obtain ⟨e, he, rfl⟩ := List.mem_map.1 hp
  obtain ⟨root, q, e₀, hmeta, hload, rfl⟩ := exists_loadEntry_of_load h he
  exact isSource_of_loadEntry (e := e₀) hmeta hload

/-! ## What is read off -/

/-- A source has the extension that it was given if a path can have it, and no other one. -/
theorem IsSource.hasExtension_iff {p : Path} (hp : IsSource paths p)
    (hne : paths.sourceExtension ≠ "") :
    Toolchain.hasExtension p paths.sourceExtension = true ↔
      Path.IsExtension paths.sourceExtension := by
  rw [Toolchain.hasExtension, beq_iff_eq]
  constructor
  · intro h
    exact Path.isExtension_of_extension? h
  · intro h
    rcases hp with ⟨dir, base, hname, rfl⟩
    obtain ⟨hstem, hslash⟩ := stemOf_chars hname
    exact Path.extension?_join (by simpa using hstem) hslash h hne dir

end Catalog
end Trainer
