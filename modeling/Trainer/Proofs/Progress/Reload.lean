import Mathlib
import Trainer.Proofs.Progress.Shelf
import Trainer.Proofs.Timestamp.Calendar

/-!
# Loading undoes saving

Progress starts fresh or is loaded, and then names are completed and the pointer is moved
(`Attained`).  All such progress has its names in order and a time of the calendar (`WellFormed`):
every start has (`wellFormed_fresh`, `wellFormed_of_load`) and every change keeps it
(`WellFormed.setCompleted`, `WellFormed.setCurrent`).  The stored form of such progress is read back
as it is, whatever characters the names have, so a save that succeeds is undone by a load
(`saved_progress_reloads`).
-/

namespace Trainer

/-- A field that is there is what its decoder has made of a value. -/
theorem Toml.Fields.exists_of_optional {α : Type} {fs : Toml.Fields} {place : Nat}
    {names : List String} {d : Toml.Decoder α} {a : α}
    (h : fs.optional place names d = some (some a)) : ∃ v, d v = some a := by
  unfold Toml.Fields.optional at h
  split at h
  · rename_i v _
    obtain ⟨b, hb, heq⟩ := Option.map_eq_some_iff.1 h
    cases heq
    exact ⟨v, hb⟩
  · exact absurd h (by simp)
  · exact absurd h (by simp)

namespace Progress

variable {σ : Type} {host : Host σ} {file : Path} {p : Progress} {s s' : σ}

/-! ## Well-formed progress -/

/-- Names in order, and a time that the calendar has. -/
structure WellFormed (p : Progress) : Prop where
  ordered : Ordered p.exercises
  updated : ∀ t ∈ p.lastUpdated, t.isValid = true

theorem wellFormed_fresh : WellFormed fresh where
  ordered := List.Pairwise.nil
  updated := by
    intro t ht
    cases ht

/-- A time that can be read is one of the calendar. -/
theorem isValid_of_asTimestamp {v : Toml.Value} {t : Timestamp} (h : asTimestamp v = some t) :
    t.isValid = true := by
  unfold asTimestamp at h
  split at h
  · exact Timestamp.isValid_of_parse? h
  · exact absurd h (by simp)

/-- A document gives well-formed progress, in whatever order it has the names. -/
theorem wellFormed_of_parse? {content : String} (h : parse? content = some p) : WellFormed p where
  ordered := ordered_of_parse? h
  updated := by
    intro t ht
    unfold parse? Toml.decode at h
    split at h
    · split at h
      · unfold decode at h
        simp only [Option.bind_eq_bind, Option.bind_eq_some_iff] at h
        obtain ⟨current, -, updated, hupdated, entries, -, hp⟩ := h
        cases hp
        have htime : updated = some t := ht
        rw [htime] at hupdated
        obtain ⟨v, hv⟩ := Toml.Fields.exists_of_optional hupdated
        exact isValid_of_asTimestamp hv
      · exact absurd h (by simp)
    · exact absurd h (by simp)

/-- Whatever is loaded is well-formed. -/
theorem wellFormed_of_load (h : load host file s = .ok p) : WellFormed p := by
  rw [load_eq] at h
  split at h
  · cases h
    exact wellFormed_fresh
  · exact absurd h (by simp)
  · split at h
    · rename_i hparse
      cases h
      exact wellFormed_of_parse? hparse
    · exact absurd h (by simp)

theorem WellFormed.setCompleted (h : WellFormed p) (name : String) {now : Timestamp}
    (hnow : now.isValid = true) : WellFormed (p.setCompleted name now) where
  ordered := setCompleted_ordered now h.ordered
  updated := by
    intro t ht
    unfold Progress.setCompleted at ht
    split at ht
    · exact h.updated t ht
    · cases ht
      exact hnow

theorem WellFormed.setCurrent (h : WellFormed p) (name : String) {now : Timestamp}
    (hnow : now.isValid = true) : WellFormed (p.setCurrent name now) where
  ordered := by
    rw [exercises_setCurrent]
    exact h.ordered
  updated := by
    intro t ht
    unfold Progress.setCurrent at ht
    split at ht
    · exact h.updated t ht
    · cases ht
      exact hnow

/-! ## Saving and loading -/

/-- Progress that a fresh start or a load and any changes after it lead to. -/
inductive Attained (host : Host σ) : Progress → Prop where
  | fresh : Attained host fresh
  | loaded {file : Path} {p : Progress} {s : σ} : load host file s = .ok p → Attained host p
  | completed {p : Progress} (name : String) (s : σ) : Attained host p →
      Attained host (p.setCompleted name (host.now s))
  | moved {p : Progress} (name : String) (s : σ) : Attained host p →
      Attained host (p.setCurrent name (host.now s))

/-- A record that can be attained is well-formed, if the clock shows valid times. -/
theorem Attained.wellFormed (hp : Attained host p) (hclock : ∀ s, (host.now s).isValid = true) :
    WellFormed p := by
  induction hp with
  | fresh => exact wellFormed_fresh
  | loaded hload => exact wellFormed_of_load hload
  | completed name s _ ih => exact ih.setCompleted name (hclock s)
  | moved name s _ ih => exact ih.setCurrent name (hclock s)

/--
Loading undoes saving.  Whatever names were completed and moved to, and wherever the progress is
saved: when the save succeeds, a load gives exactly the progress that was saved.
-/
theorem saved_progress_reloads (hclock : ∀ s, (host.now s).isValid = true)
    (hp : Attained host p) (hreplaces : host.Replaces file)
    (hsave : save host file p s = (.ok (), s')) : load host file s' = .ok p := by
  have hwell := hp.wellFormed hclock
  exact load_of_saved hreplaces hwell.ordered hwell.updated hsave

/-! ## Names that need quotes -/

/-- A machine whose clock stands in a leap second, with progress that was written elsewhere. -/
def oddHost : Host Shelf :=
  Shelf.host ⟨2016, 12, 31, 23, 59, 60, 120000000⟩

def oddFile : Path := ⟨"/kata/.state/progress.toml"⟩

/-- A record in no order, with a time at an offset. -/
def oddShelf : Shelf where
  directories := []
  files := [(oddFile,
    "last_updated = \"2024-02-29 23:30:00.5-01:00\"\n[exercises]\nz = true\n\"a.b\" = false\n")]
  full := false

def oddLoaded : Progress where
  currentExercise := none
  lastUpdated := some ⟨2024, 3, 1, 0, 30, 0, 500000000⟩
  exercises := [("a.b", false), ("z", true)]

/-- The same with a name of quotes, a backslash and a newline completed, and no name pointed to. -/
def oddProgress : Progress :=
  (oddLoaded.setCompleted "\"\"\"'''\\\n[x]" (oddHost.now oddShelf)).setCurrent ""
    (oddHost.now oddShelf)

theorem saved_progress_reloads_odd :
    (∀ s, (oddHost.now s).isValid = true) ∧ load oddHost oddFile oddShelf = .ok oddLoaded ∧
      Attained oddHost oddProgress ∧ oddHost.Keeps oddFile ∧
      (save oddHost oddFile oddProgress oddShelf).1 = .ok () ∧
      load oddHost oddFile (save oddHost oddFile oddProgress oddShelf).2 = .ok oddProgress := by
  have hclock : ∀ s, (oddHost.now s).isValid = true := by
    intro s
    rfl
  have hload : load oddHost oddFile oddShelf = .ok oddLoaded := by decide +kernel
  have hattained : Attained oddHost oddProgress :=
    .moved "" oddShelf (.completed "\"\"\"'''\\\n[x]" oddShelf (.loaded hload))
  have hkeeps : oddHost.Keeps oddFile := Shelf.keeps _ (by decide +kernel)
  have hsave : (save oddHost oddFile oddProgress oddShelf).1 = .ok () := by decide +kernel
  exact ⟨hclock, hload, hattained, hkeeps, hsave,
    saved_progress_reloads hclock hattained hkeeps.toReplaces (Prod.ext hsave rfl)⟩

end Progress
end Trainer
