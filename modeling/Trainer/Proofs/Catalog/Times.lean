import Mathlib
import Trainer.Proofs.Catalog.Attempts

/-!
# Catalogs but for the clock

Two catalogs are alike when they differ at most in times, and there only in what a function of
times does not tell apart: a function that tells all times apart makes alike catalogs equal, and one
that tells none apart leaves times out of account.

The operations of a catalog keep that, on machines whose clocks show alike times and which take or
refuse alike progress (`SavesAlike`): no operation decides anything by the time of day
(`Alike.setCurrent`, `Alike.markCompleted`, `Alike.recordAttempt`).
-/

namespace Trainer

variable {α : Type} {f : Timestamp → α}

/-! ## Seeing times through a function -/

/-- An exercise, and what is seen of the time of its last attempt. -/
def Exercise.seen (f : Timestamp → α) (e : Exercise) : Exercise × Option α :=
  ({ e with lastAttempt := none }, e.lastAttempt.map f)

/-- Progress, and what is seen of the time of its last change. -/
def Progress.seen (f : Timestamp → α) (p : Progress) : Progress × Option α :=
  ({ p with lastUpdated := none }, p.lastUpdated.map f)

theorem Exercise.seen_completed (f : Timestamp → α) (e : Exercise) (done : Bool) :
    Exercise.seen f { e with completed := done } =
      ({ (e.seen f).1 with completed := done }, (e.seen f).2) := rfl

theorem Exercise.seen_recordAttempt (f : Timestamp → α) (e : Exercise) (now : Timestamp) :
    (e.recordAttempt now).seen f =
      ({ (e.seen f).1 with attempts := min ((e.seen f).1.attempts + 1) attemptLimit },
        some (f now)) := rfl

theorem Exercise.seen_injective (hf : Function.Injective f) : Function.Injective (seen f) := by
  intro e e' h
  obtain ⟨hrest, htime⟩ := Prod.mk.inj h
  have hlast : e.lastAttempt = e'.lastAttempt := Option.map_injective hf htime
  cases e
  cases e'
  simp_all

theorem Progress.seen_injective (hf : Function.Injective f) : Function.Injective (seen f) := by
  intro p p' h
  obtain ⟨hrest, htime⟩ := Prod.mk.inj h
  have hlast : p.lastUpdated = p'.lastUpdated := Option.map_injective hf htime
  cases p
  cases p'
  simp_all

/-- Progress is recorded alike in alike records, at alike times. -/
theorem Progress.seen_setCompleted {p p' : Progress} {t t' : Timestamp}
    (hp : p.seen f = p'.seen f) (ht : f t = f t') (name : String) :
    (p.setCompleted name t).seen f = (p'.setCompleted name t').seen f := by
  obtain ⟨current, updated, exercises⟩ := p
  obtain ⟨current', updated', exercises'⟩ := p'
  simp only [seen, Prod.mk.injEq, Progress.mk.injEq, true_and] at hp
  obtain ⟨⟨rfl, rfl⟩, hupdated⟩ := hp
  have hsame : isCompleted ⟨current, updated', exercises⟩ name =
      isCompleted ⟨current, updated, exercises⟩ name := rfl
  unfold setCompleted
  rw [hsame]
  split
  · simp [seen, hupdated]
  · simp [seen, ht]

/-- The pointer is moved alike in alike progress, at alike times. -/
theorem Progress.seen_setCurrent {p p' : Progress} {t t' : Timestamp}
    (hp : p.seen f = p'.seen f) (ht : f t = f t') (name : String) :
    (p.setCurrent name t).seen f = (p'.setCurrent name t').seen f := by
  obtain ⟨current, updated, exercises⟩ := p
  obtain ⟨current', updated', exercises'⟩ := p'
  simp only [seen, Prod.mk.injEq, Progress.mk.injEq, true_and] at hp
  obtain ⟨⟨rfl, rfl⟩, hupdated⟩ := hp
  unfold setCurrent
  dsimp only
  split
  · simp [seen, hupdated]
  · simp [seen, ht]

/-- Two machines whose clocks show alike times and which take or refuse alike progress. -/
structure SavesAlike {σ τ : Type} (f : Timestamp → α) (store : ProgressStore σ)
    (other : ProgressStore τ) (h : σ) (k : τ) : Prop where
  now : f (store.now h) = f (other.now k)
  save : ∀ p q : Progress, p.seen f = q.seen f → (store.save p h).1.isOk = (other.save q k).1.isOk

namespace Catalog

/-! ## What an operation leaves of a catalog -/

variable {σ τ : Type} {store : ProgressStore σ} {other : ProgressStore τ} {h : σ} {k : τ}

theorem catalog_setCurrent (name : String) (c : Catalog) :
    (setCurrent store name (c, h)).2.1 =
      if (c.position? name).isSome then
        { c with progress := c.progress.setCurrent name (store.now h) }
      else c := by
  rcases hset : setCurrent store name (c, h) with ⟨answer, c', h'⟩
  cases moved_of_eq hset with
  | unknown hpos => simp [hpos]
  | there hpos hthere => simp [hpos, Progress.setCurrent, hthere]
  | stored hpos => simp [hpos]
  | refused hpos => simp [hpos]

theorem catalog_markCompleted (name : String) (c : Catalog) :
    (markCompleted store name (c, h)).2.1 =
      match c.position? name with
      | none => c
      | some i =>
          if c.flagAt i = true ∧ c.progress.isCompleted name = true then c
          else if (store.save (c.progress.setCompleted name (store.now h)) h).1.isOk then
            c.marked i name (store.now h)
          else c.setFlag i (c.progress.isCompleted name) := by
  rcases hmark : markCompleted store name (c, h) with ⟨answer, c', h'⟩
  cases marked_of_eq hmark with
  | unknown hpos => simp only [hpos]
  | already hpos hflag hdone => simp only [hpos, hflag, hdone, and_self, if_true]
  | stored hpos hopen hsave =>
      simp only [hpos, if_neg hopen, hsave]
      rfl
  | refused hpos hopen hsave =>
      simp only [hpos, if_neg hopen, hsave]
      rfl

theorem catalog_recordAttempt (name : String) (success : Bool) (c : Catalog) :
    (recordAttempt store name success (c, h)).2.1 =
      match c.position? name with
      | none => c
      | some i =>
          if success then (markCompleted store name (c.counted i (store.now h), h)).2.1
          else c.counted i (store.now h) := by
  cases hpos : c.position? name with
  | none => simp only [recordAttempt, hpos]
  | some i =>
      simp only [recordAttempt, hpos, counted]
      split
      · split
        · rename_i hmark
          rw [hmark]
        · rename_i hmark
          rw [hmark]
      · rfl

/-! ## Alike catalogs -/

variable {c c' : Catalog}

/-- Two catalogs that differ at most in times which `f` does not tell apart. -/
structure Alike (f : Timestamp → α) (c c' : Catalog) : Prop where
  exercises : c.exercises.map (Exercise.seen f) = c'.exercises.map (Exercise.seen f)
  progress : c.progress.seen f = c'.progress.seen f
  progressFile : c.progressFile = c'.progressFile

theorem Alike.refl (c : Catalog) : Alike f c c := ⟨rfl, rfl, rfl⟩

/-- Alike catalogs are equal if all times are told apart. -/
theorem Alike.eq (hf : Function.Injective f) (hc : Alike f c c') : c = c' := by
  have hexercises := List.map_injective_iff.2 (Exercise.seen_injective hf) hc.exercises
  have hprogress := Progress.seen_injective hf hc.progress
  have hfile := hc.progressFile
  cases c
  cases c'
  simp_all

/-- What is read of the exercises without looking at times is the same. -/
theorem Alike.map {β : Type} (hc : Alike f c c') (read : Exercise → β)
    (hread : ∀ e, read e = read { e with lastAttempt := none }) :
    c.exercises.map read = c'.exercises.map read := by
  have hthrough (d : Catalog) : d.exercises.map read =
      (d.exercises.map (Exercise.seen f)).map fun x => read x.1 := by
    rw [List.map_map]
    exact List.map_congr_left fun e _ => hread e
  rw [hthrough c, hthrough c', hc.exercises]

theorem Alike.names (hc : Alike f c c') : c.names = c'.names :=
  hc.map (·.name) fun _ => rfl

theorem Alike.size (hc : Alike f c c') : c.size = c'.size := by
  rw [size_eq_length_names, hc.names, ← size_eq_length_names]

theorem Alike.position? (hc : Alike f c c') (name : String) :
    c.position? name = c'.position? name :=
  position?_congr hc.names name

theorem Alike.flagAt (hc : Alike f c c') (i : Nat) : c.flagAt i = c'.flagAt i := by
  have hflags := hc.map (·.completed) fun _ => rfl
  rw [Catalog.flagAt, Catalog.flagAt, ← List.getElem?_map, ← List.getElem?_map, hflags]

theorem Alike.isCompleted (hc : Alike f c c') (name : String) :
    c.progress.isCompleted name = c'.progress.isCompleted name := by
  have hrecord : c.progress.exercises = c'.progress.exercises :=
    congrArg (·.1.exercises) hc.progress
  rw [Progress.isCompleted, Progress.isCompleted, hrecord]

/-- Alike exercises at a position stay so when both are changed alike. -/
theorem Alike.modify (hc : Alike f c c') {g g' : Exercise → Exercise}
    (hg : ∀ e e' : Exercise, e.seen f = e'.seen f → (g e).seen f = (g' e').seen f) (i : Nat) :
    (c.exercises.modify i g).map (Exercise.seen f) =
      (c'.exercises.modify i g').map (Exercise.seen f) := by
  refine List.ext_getElem? fun j => ?_
  have hj := congrArg (·[j]?) hc.exercises
  simp only [List.getElem?_map] at hj
  rw [List.getElem?_map, List.getElem?_map, List.getElem?_modify, List.getElem?_modify]
  cases he : c.exercises[j]? with
  | none =>
      cases he' : c'.exercises[j]? with
      | none => rfl
      | some e' => simp [he, he'] at hj
  | some e =>
      cases he' : c'.exercises[j]? with
      | none => simp [he, he'] at hj
      | some e' =>
          simp only [he, he', Option.map_some, Option.some.injEq] at hj
          by_cases hij : i = j
          · simpa [hij] using hg e e' hj
          · simpa [hij] using hj

theorem Alike.setFlag (hc : Alike f c c') (i : Nat) (done : Bool) :
    Alike f (c.setFlag i done) (c'.setFlag i done) := by
  refine ⟨hc.modify (fun e e' he => ?_) i, hc.progress, hc.progressFile⟩
  rw [Exercise.seen_completed f e, Exercise.seen_completed f e', he]

theorem Alike.counted (hc : Alike f c c') {t t' : Timestamp} (ht : f t = f t') (i : Nat) :
    Alike f (c.counted i t) (c'.counted i t') := by
  refine ⟨hc.modify (fun e e' he => ?_) i, hc.progress, hc.progressFile⟩
  rw [Exercise.seen_recordAttempt f e, Exercise.seen_recordAttempt f e', he, ht]

theorem Alike.marked (hc : Alike f c c') {t t' : Timestamp} (ht : f t = f t') (i : Nat)
    (name : String) : Alike f (c.marked i name t) (c'.marked i name t') :=
  ⟨(hc.setFlag i true).exercises, Progress.seen_setCompleted hc.progress ht name, hc.progressFile⟩

/-! ## Operations on alike catalogs -/

/-- Moves on machines that save alike leave two catalogs alike. -/
theorem Alike.setCurrent (hc : Alike f c c') (hm : SavesAlike f store other h k) (name : String) :
    Alike f (setCurrent store name (c, h)).2.1 (setCurrent other name (c', k)).2.1 := by
  rw [catalog_setCurrent, catalog_setCurrent, hc.position? name]
  split
  · exact ⟨hc.exercises, Progress.seen_setCurrent hc.progress hm.now name, hc.progressFile⟩
  · exact hc

/-- Markings on machines that save alike leave two catalogs alike. -/
theorem Alike.markCompleted (hc : Alike f c c') (hm : SavesAlike f store other h k)
    (name : String) :
    Alike f (markCompleted store name (c, h)).2.1 (markCompleted other name (c', k)).2.1 := by
  rw [catalog_markCompleted, catalog_markCompleted, hc.position? name]
  cases c'.position? name with
  | none => exact hc
  | some i =>
      have hsave := hm.save _ _ (Progress.seen_setCompleted hc.progress hm.now name)
      dsimp only
      rw [hc.flagAt i, hc.isCompleted name, hsave]
      split
      · exact hc
      · split
        · exact hc.marked hm.now i name
        · exact hc.setFlag i _

/-- Attempts on machines that save alike leave two catalogs alike. -/
theorem Alike.recordAttempt (hc : Alike f c c') (hm : SavesAlike f store other h k)
    (name : String) (success : Bool) :
    Alike f (recordAttempt store name success (c, h)).2.1
      (recordAttempt other name success (c', k)).2.1 := by
  rw [catalog_recordAttempt, catalog_recordAttempt, hc.position? name]
  cases c'.position? name with
  | none => exact hc
  | some i =>
      have hcounted := hc.counted hm.now i
      dsimp only
      split
      · exact hcounted.markCompleted hm name
      · exact hcounted

end Catalog
end Trainer
