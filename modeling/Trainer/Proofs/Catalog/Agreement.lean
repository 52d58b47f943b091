import Mathlib
import Trainer.Catalog.Discovery
import Trainer.Proofs.Catalog.Changes
import Trainer.Proofs.Progress.Store

/-!
# Flags and the record of completions

A catalog keeps the completion of an exercise twice, as a flag of the exercise and in the record of
names.  The two agree in a catalog that was just loaded (`agrees_of_load`), and every change of a
catalog keeps them so, whether or not it could be stored (`Agrees.marked`, `Agrees.counted`,
`Agrees.moved`).
-/

namespace Trainer
namespace Catalog

/-- No two exercises share a name, and the flags say what the ordered record says. -/
structure Agrees (c : Catalog) : Prop where
  nodup : c.names.Nodup
  ordered : Progress.Ordered c.progress.exercises
  flags : ∀ e ∈ c.exercises, e.completed = c.progress.isCompleted e.name

/-! ## A loaded catalog -/

/-- A load gives no two exercises of one name, whatever the files hold. -/
theorem nodup_loadEntries (load : Path → Except EntryFailure Exercise) (files : List Path) :
    ∀ taken : List Exercise, (taken.map (·.name)).Nodup →
      ((loadEntries load taken files).1.map (·.name)).Nodup := by
  induction files with
  | nil => exact fun _ h => h
  | cons p rest ih =>
      intro taken h
      rw [loadEntries]
      split
      · exact ih taken h
      · rename_i e _
        split
        · exact ih taken h
        · rename_i hnew
          refine ih (taken ++ [e]) ?_
          rw [List.map_append, List.nodup_append]
          refine ⟨h, List.nodup_singleton _, fun name hname other hother heq => hnew ?_⟩
          obtain ⟨t, ht, rfl⟩ := List.mem_map.1 hname
          rw [List.map_singleton, List.mem_singleton] at hother
          refine List.any_eq_true.2 ⟨t, ht, ?_⟩
          simp [heq, hother]

variable {σ : Type} {host : Host σ} {paths : CatalogPaths} {c c' : Catalog} {s s' : σ}

/-- The loop of a load that succeeds: it went through metadata files, and refused none. -/
theorem exists_entries_of_load (h : load host paths s = .ok c) :
    ∃ (root : Path) (files : List Path) (exercises : List Exercise),
      files ≠ [] ∧ (∀ p ∈ files, isMetadata paths.scaffoldFile p = true) ∧
      loadEntries (loadEntry host root paths s) [] files = (exercises, []) ∧
      Progress.load host paths.progressFile s = .ok c.progress ∧
      c.progressFile = paths.progressFile ∧
      c.exercises = exercises.map fun e =>
        { e with completed := c.progress.isCompleted e.name } := by
  -- The refusals are ruled out one after the other.
  unfold load at h
  split at h
  · exact absurd h (by simp)
  split at h
  · exact absurd h (by simp)
  · rename_i root _
    dsimp only at h
    split at h
    · exact absurd h (by simp)
    rename_i hfiles
    split at h
    · exact absurd h (by simp)
    rename_i hfailures
    split at h
    · exact absurd h (by simp)
    · rename_i hprogress
      cases h
      refine ⟨root, _, _, by simpa using hfiles, ?_, Prod.ext rfl (by simpa using hfailures),
        hprogress, rfl, rfl⟩
      intro p hp
      have hmem := List.mem_mergeSort.1 hp
      exact (List.mem_filter.1 hmem).2

/-- A file that makes up an exercise holds metadata that were accepted, and its source is there. -/
theorem exists_metadata_of_loadEntry {root p : Path} {e : Exercise}
    (h : loadEntry host root paths s p = .ok e) :
    ∃ content m v, host.readText p s = .ok content ∧ Metadata.parse content p = .ok m ∧
      m.validation = .ok v ∧ host.isFile e.sourcePath s = true ∧
      e = exerciseOf root paths p m v := by
  unfold loadEntry at h
  split at h
  · cases h
  rename_i content hread
  split at h
  · cases h
  rename_i m hparse
  split at h
  · cases h
  rename_i v hv
  dsimp only at h
  split at h
  · rename_i hsource
    cases h
    exact ⟨content, m, v, hread, hparse, hv, hsource, rfl⟩
  · cases h

/-- What a load that succeeds gives. -/
theorem exists_of_load (h : load host paths s = .ok c) :
    Progress.load host paths.progressFile s = .ok c.progress ∧
      c.progressFile = paths.progressFile ∧
      ∃ exercises : List Exercise, (exercises.map (·.name)).Nodup ∧
        c.exercises = exercises.map fun e =>
          { e with completed := c.progress.isCompleted e.name } := by
  obtain ⟨root, files, exercises, -, -, hloop, hprogress, hfile, hexercises⟩ :=
    exists_entries_of_load h
  have hnodup := nodup_loadEntries (loadEntry host root paths s) files [] List.nodup_nil
  rw [hloop] at hnodup
  exact ⟨hprogress, hfile, exercises, hnodup, hexercises⟩

/-- A loaded catalog agrees with the record that it was loaded with. -/
theorem agrees_of_load (h : load host paths s = .ok c) : c.Agrees := by
  obtain ⟨hprogress, -, exercises, hnodup, hexercises⟩ := exists_of_load h
  refine ⟨?_, Progress.ordered_of_load hprogress, fun e he => ?_⟩
  · rw [names, hexercises, List.map_map]
    exact hnodup
  · rw [hexercises] at he
    obtain ⟨e₀, -, rfl⟩ := List.mem_map.1 he
    rfl

/-! ## Changes -/

variable {store : ProgressStore σ} {name : String} {i : Nat}

/-- An exercise after a change at the position of a name. -/
theorem exists_of_mem_modify {f : Exercise → Exercise} {l : List Exercise} {e : Exercise}
    (h : e ∈ l.modify i f) :
    ∃ j, ∃ e₀, l[j]? = some e₀ ∧ ((i = j ∧ e = f e₀) ∨ (i ≠ j ∧ e = e₀)) := by
  obtain ⟨j, hj⟩ := List.mem_iff_getElem?.1 h
  rw [List.getElem?_modify] at hj
  cases hl : l[j]? with
  | none => simp [hl] at hj
  | some e₀ =>
      rw [hl] at hj
      refine ⟨j, e₀, hl, ?_⟩
      by_cases hij : i = j
      · exact .inl ⟨hij, by simpa [hij] using hj.symm⟩
      · exact .inr ⟨hij, by simpa [hij] using hj.symm⟩

/-- Only the exercise of a name has that name. -/
theorem eq_of_position? (hnodup : c.names.Nodup) (hpos : c.position? name = some i) {j : Nat}
    {e : Exercise} (hj : c.exercises[j]? = some e) (hname : e.name = name) : i = j := by
  obtain ⟨e₀, hi, hname₀⟩ := getElem?_of_position? hpos
  have hnames : c.names[i]? = c.names[j]? := by
    rw [names, List.getElem?_map, List.getElem?_map, hi, hj, Option.map_some, Option.map_some,
      hname₀, hname]
  have hlt : i < c.names.length := by
    rw [← size_eq_length_names]
    exact position?_lt_size hpos
  exact (List.getElem?_inj hlt hnodup).1 hnames

/-- The flag of the exercise of a name says what the record says. -/
theorem Agrees.flagAt (h : c.Agrees) (hpos : c.position? name = some i) :
    c.flagAt i = c.progress.isCompleted name := by
  obtain ⟨e, hi, hname⟩ := getElem?_of_position? hpos
  have hflag := h.flags e (List.mem_of_getElem? hi)
  rw [hname] at hflag
  simp [Catalog.flagAt, hi, hflag]

/-- Flags and record agree, so an exercise that is open by one of them is not recorded. -/
theorem Agrees.not_isCompleted (h : c.Agrees) (hpos : c.position? name = some i)
    (hopen : ¬(c.flagAt i = true ∧ c.progress.isCompleted name = true)) :
    c.progress.isCompleted name = false := by
  rw [h.flagAt hpos, and_self] at hopen
  simpa using hopen

/-- Setting the flag and the record of a name together keeps them in agreement. -/
theorem Agrees.setFlag (h : c.Agrees) (hpos : c.position? name = some i) {done : Bool}
    {p : Progress} (hp : Progress.Ordered p.exercises) (hdone : p.isCompleted name = done)
    (hsame : ∀ n, n ≠ name → p.isCompleted n = c.progress.isCompleted n) :
    Agrees { c.setFlag i done with progress := p } := by
  refine ⟨?_, hp, fun e he => ?_⟩
  · change (c.setFlag i done).names.Nodup
    rw [names_setFlag]
    exact h.nodup
  · obtain ⟨j, e₀, hj, ⟨rfl, rfl⟩ | ⟨hij, rfl⟩⟩ := exists_of_mem_modify he
    -- The exercise of the name.
    · obtain ⟨e₁, hi, hname⟩ := getElem?_of_position? hpos
      rw [hj, Option.some.injEq] at hi
      rw [← hi] at hname
      simp [hname, hdone]
    -- Any other exercise has another name.
    · have hne : e.name ≠ name := fun hname => hij (eq_of_position? h.nodup hpos hj hname)
      rw [h.flags e (List.mem_of_getElem? hj)]
      exact (hsame e.name hne).symm

theorem Agrees.marked {r : Except Failure Bool} (h : c.Agrees)
    (hmark : Marked store name c s r c' s') : c'.Agrees := by
  cases hmark with
  | unknown => exact h
  | already => exact h
  | stored hpos _ _ =>
      refine h.setFlag hpos (Progress.setCompleted_ordered _ h.ordered) ?_ fun n hn => ?_
      · rw [Progress.isCompleted_setCompleted, if_pos rfl]
      · rw [Progress.isCompleted_setCompleted, if_neg hn]
  | refused hpos _ _ => exact h.setFlag hpos h.ordered rfl fun _ _ => rfl

theorem Agrees.countedAt (h : c.Agrees) (i : Nat) (now : Timestamp) : (c.counted i now).Agrees := by
  refine ⟨?_, h.ordered, fun e he => ?_⟩
  · rw [names_counted]
    exact h.nodup
  · obtain ⟨j, e₀, hj, ⟨rfl, rfl⟩ | ⟨-, rfl⟩⟩ := exists_of_mem_modify he
    · exact h.flags e₀ (List.mem_of_getElem? hj)
    · exact h.flags e (List.mem_of_getElem? hj)

/-- Whether or not the attempt could be stored, flags and record still agree. -/
theorem Agrees.counted {success : Bool} {r : Except Failure Nat} (h : c.Agrees)
    (hcount : Counted store name success c s r c' s') : c'.Agrees := by
  cases hcount with
  | unknown => exact h
  | failed => exact h.countedAt _ _
  | passed _ _ hmark => exact (h.countedAt _ _).marked hmark
  | refused _ _ hmark => exact (h.countedAt _ _).marked hmark

/-- A move touches neither flags nor record. -/
theorem Agrees.moved {r : Except Failure Unit} (h : c.Agrees)
    (hmove : Moved store name c s r c' s') : c'.Agrees := by
  have hmoved (now : Timestamp) :
      Agrees { c with progress := c.progress.setCurrent name now } := by
    have hexercises := Progress.exercises_setCurrent c.progress name now
    refine ⟨h.nodup, by rw [hexercises]; exact h.ordered, fun e he => ?_⟩
    rw [Progress.isCompleted, hexercises]
    exact h.flags e he
  cases hmove with
  | unknown => exact h
  | there => exact h
  | stored => exact hmoved _
  | refused => exact hmoved _

end Catalog
end Trainer
