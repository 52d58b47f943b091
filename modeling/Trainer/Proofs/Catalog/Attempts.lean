import Mathlib
import Trainer.Proofs.Catalog.Extension

/-!
# Attempts and completions of exercises

Marking and counting find an exercise by its name and change it where it stands.  In a catalog whose
flags agree with its record they are maps over the exercises: the exercise of the name becomes
another one, every other exercise is left as it is (`Marked.exercises`, `Counted.exercises`).  So
nothing has to be said of positions, or of a flag that is set and taken back.

* A marking that fails leaves the exercise as it was before.
* A count that fails on a save keeps the attempt, with its time, and leaves the flag.
* The count of a success finds nothing to store, stores it, or fails on the save
  (`Counted.success_cases`).
* A loaded catalog starts without attempts (`untried_of_load`).
-/

namespace Trainer
namespace Catalog

variable {σ : Type} {store : ProgressStore σ} {c c' : Catalog} {s s' : σ} {name : String} {i : Nat}

/-! ## The exercise of a name -/

/-- A change at the position of a name is a change of the exercise of that name. -/
theorem modify_eq_map (hnodup : c.names.Nodup) (hpos : c.position? name = some i)
    (f : Exercise → Exercise) :
    c.exercises.modify i f = c.exercises.map fun e => if e.name = name then f e else e := by
  obtain ⟨e₀, hi, hname₀⟩ := getElem?_of_position? hpos
  refine List.ext_getElem? fun j => ?_
  rw [List.getElem?_modify, List.getElem?_map]
  by_cases hij : i = j
  · subst hij
    rw [hi]
    simp [hname₀]
  · cases hj : c.exercises[j]? with
    | none => simp [hij]
    | some e =>
        -- No other position has an exercise of the name.
        have hne : e.name ≠ name := fun hname => hij (eq_of_position? hnodup hpos hj hname)
        simp [hij, hne]

/-- A name without a position is the name of no exercise. -/
theorem name_ne_of_unknown (hpos : c.position? name = none) {e : Exercise}
    (he : e ∈ c.exercises) : e.name ≠ name := by
  have hno := List.findIdx?_eq_none_iff.1 hpos e he
  simpa using hno

theorem map_eq_of_unknown (hpos : c.position? name = none) (f : Exercise → Exercise) :
    (c.exercises.map fun e => if e.name = name then f e else e) = c.exercises := by
  refine (List.map_congr_left fun e he => ?_).trans (List.map_id _)
  exact if_neg (name_ne_of_unknown hpos he)

/-- Where a name is found depends only on the names. -/
theorem position?_congr (hnames : c'.names = c.names) (n : String) :
    c'.position? n = c.position? n := by
  have hlist (d : Catalog) : d.position? n = d.names.findIdx? (· == n) := by
    rw [names, List.findIdx?_map]
    rfl
  rw [hlist c', hlist c, hnames]

/-! ## Marking -/

/-- What a marking leaves: the exercise of the name is completed if the marking succeeds. -/
theorem Marked.exercises {r : Except Failure Bool} (hc : c.Agrees)
    (h : Marked store name c s r c' s') :
    c'.exercises = c.exercises.map fun e =>
      if e.name = name then { e with completed := e.completed || r.isOk } else e := by
  -- The flag of the exercise of the name is what the record says of the name.
  have hflag : ∀ e ∈ c.exercises, e.name = name → e.completed = c.progress.isCompleted name := by
    rintro e he rfl
    exact hc.flags e he
  cases h with
  | unknown hpos => exact (map_eq_of_unknown hpos _).symm
  | already hpos _ hdone =>
      refine ((List.map_congr_left fun e he => ?_).trans (List.map_id _)).symm
      split
      · rename_i hname
        have hcompleted : e.completed = true := (hflag e he hname).trans hdone
        rw [hcompleted, Bool.true_or, ← hcompleted]
        rfl
      · rfl
  | stored hpos =>
      refine (modify_eq_map hc.nodup hpos _).trans (List.map_congr_left fun e _ => ?_)
      simp [Except.isOk, Except.toBool]
  | refused hpos =>
      refine (modify_eq_map hc.nodup hpos _).trans (List.map_congr_left fun e he => ?_)
      split
      · rename_i hname
        -- The flag goes back to what the record says, and that is what it was.
        simp [Except.isOk, Except.toBool, ← hflag e he hname]
      · rfl

/-! ## Counting -/

/-- An exercise after an attempt that was counted at a time. -/
def attempted (now : Timestamp) (passed : Bool) (e : Exercise) : Exercise :=
  { e.recordAttempt now with completed := e.completed || passed }

/--
What a count leaves: the exercise of the name has one attempt more, and it is completed if the
attempt is a success and the count does not fail.
-/
theorem Counted.exercises {success : Bool} {r : Except Failure Nat} (hc : c.Agrees)
    (h : Counted store name success c s r c' s') :
    c'.exercises = c.exercises.map fun e =>
      if e.name = name then attempted (store.now s) (success && r.isOk) e else e := by
  have hcount (j : Nat) (hpos : c.position? name = some j) : (c.counted j (store.now s)).exercises =
      c.exercises.map fun e => if e.name = name then e.recordAttempt (store.now s) else e :=
    modify_eq_map hc.nodup hpos _
  -- A marking after the count finds the exercise under the name that it had.
  have hmarked {j : Nat} {q : Except Failure Bool} {c₁ : Catalog} {s₁ : σ}
      (hpos : c.position? name = some j)
      (hmark : Marked store name (c.counted j (store.now s)) s q c₁ s₁) :
      c₁.exercises = c.exercises.map fun e =>
        if e.name = name then attempted (store.now s) q.isOk e else e := by
    rw [hmark.exercises (hc.countedAt j _), hcount j hpos, List.map_map]
    refine List.map_congr_left fun e _ => ?_
    by_cases hname : e.name = name
    · simp [hname, attempted, Exercise.recordAttempt]
    · simp [hname]
  cases h with
  | unknown hpos => exact (map_eq_of_unknown hpos _).symm
  | failed hpos hfailed =>
      rw [hcount _ hpos]
      simp [hfailed, attempted, Exercise.recordAttempt]
  | passed hpos hpassed hmark =>
      rw [hmarked hpos hmark]
      simp [hpassed, Except.isOk, Except.toBool]
  | refused hpos hpassed hmark =>
      rw [hmarked hpos hmark]
      simp [hpassed, Except.isOk, Except.toBool]

/-- A count has one of its endings. -/
theorem counted_recordAttempt (store : ProgressStore σ) (name : String) (success : Bool)
    (c : Catalog) (s : σ) : Counted store name success c s
      (recordAttempt store name success (c, s)).1 (recordAttempt store name success (c, s)).2.1
      (recordAttempt store name success (c, s)).2.2 :=
  counted_of_eq rfl

/-! ## The count of a success -/

/--
The endings of the count of a success, for an exercise of the catalog: there is nothing to store,
it is stored, or it cannot be and the record is as before.
-/
theorem Counted.success_cases {r : Except Failure Nat} (hc : c.Agrees) (hname : name ∈ c.names)
    (h : Counted store name true c s r c' s') :
    (c.progress.isCompleted name = true ∧ r.isOk = true ∧ c'.progress = c.progress ∧ s' = s) ∨
      (c.progress.isCompleted name = false ∧ r.isOk = true ∧
        c'.progress = c.progress.setCompleted name (store.now s) ∧
        store.save c'.progress s = (.ok (), s')) ∨
      ∃ cause, c.progress.isCompleted name = false ∧ r = .error (.unsaved cause) ∧
        c'.progress = c.progress ∧
        store.save (c.progress.setCompleted name (store.now s)) s = (.error cause, s') := by
  obtain ⟨e, he, rfl⟩ := List.mem_map.1 hname
  have hopen {j : Nat} (hpos : (c.counted j (store.now s)).position? e.name = some j)
      (hno : ¬((c.counted j (store.now s)).flagAt j = true ∧
        c.progress.isCompleted e.name = true)) : c.progress.isCompleted e.name = false :=
    (hc.countedAt j _).not_isCompleted hpos hno
  -- Counting leaves the exercise where it is.
  have hsame {j k : Nat} (hpos : c.position? e.name = some j)
      (hpos' : (c.counted j (store.now s)).position? e.name = some k) : j = k := by
    rw [position?_congr (names_counted c j _), hpos] at hpos'
    exact Option.some.inj hpos'
  cases h with
  | unknown hpos => exact absurd rfl (name_ne_of_unknown hpos he)
  | failed _ hno => cases hno
  | passed hpos _ hmark =>
      cases hmark with
      | already _ _ hdone => exact .inl ⟨hdone, rfl, rfl, rfl⟩
      | stored hpos' hno hsave =>
          cases hsame hpos hpos'
          exact .inr (.inl ⟨hopen hpos' hno, rfl, rfl, hsave⟩)
  | refused hpos _ hmark =>
      cases hmark with
      | unknown hpos' =>
          rw [position?_congr (names_counted c _ _), hpos] at hpos'
          cases hpos'
      | refused hpos' hno hsave =>
          cases hsame hpos hpos'
          exact .inr (.inr ⟨_, hopen hpos' hno, rfl, rfl, hsave⟩)

/-- The count of a success fails exactly if the success has to be stored and cannot be. -/
theorem Counted.isOk_iff {r : Except Failure Nat} (hc : c.Agrees)
    (h : Counted store name true c s r c' s') {e : Exercise} (he : e ∈ c.exercises)
    (hname : e.name = name) :
    r.isOk = true ↔ e.completed = true ∨
      (store.save (c.progress.setCompleted name (store.now s)) s).1 = .ok () := by
  have hmem : name ∈ c.names := hname ▸ List.mem_map_of_mem he
  rw [hc.flags e he, hname]
  rcases h.success_cases hc hmem with ⟨hdone, hok, -⟩ | ⟨hdone, hok, hp, hsave⟩ |
    ⟨cause, hdone, rfl, -, hsave⟩
  · simp [hdone, hok]
  · rw [hp] at hsave
    simp [hsave, hok]
  · simp [hdone, hsave, Except.isOk, Except.toBool]

/-! ## Before the first attempt -/

/-- In a loaded catalog no exercise has been tried. -/
theorem untried_of_load {host : Host σ} {paths : CatalogPaths} (h : load host paths s = .ok c)
    {e : Exercise} (he : e ∈ c.exercises) : e.attempts = 0 ∧ e.lastAttempt = none := by
  obtain ⟨root, p, e₀, -, hload, rfl⟩ := exists_loadEntry_of_load h he
  obtain ⟨content, m, v, -, -, -, -, rfl⟩ := exists_metadata_of_loadEntry hload
  exact ⟨rfl, rfl⟩

end Catalog
end Trainer
