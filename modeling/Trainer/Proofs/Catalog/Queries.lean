import Mathlib
import Trainer.Proofs.Catalog.Completion
import Trainer.Proofs.Catalog.Found
import Trainer.Proofs.Catalog.Loading

/-!
# Questions to a catalog

Which exercise is next, how many are done, and where to go on are answered from different places:
the flags of the exercises, their number, and the pointer of the record.  Here each answer is said in
terms of the exercises in their order.

* The next exercise is the first open one (`nextIncomplete_eq_some_iff`), and there is none exactly
  if as many are done as there are (`nextIncomplete_eq_none_iff`).
* As many are done as the stored record says (`Stored.stats_eq`).
* One goes on at the exercise that is pointed at, else at the next one, else at the first
  (`resumes_iff`).
-/

namespace Trainer
namespace Catalog

variable {σ : Type} {host : Host σ} {file : Path} {c : Catalog} {s : σ} {i j : Nat}
  {e e' : Exercise}

/-! ## The next exercise -/

/-- An exercise is next if it is open and every one before it is completed. -/
theorem nextIncomplete_eq_some_iff : c.nextIncomplete = some e ↔
    ∃ i : Nat, c.exercises[i]? = some e ∧ e.completed = false ∧
      ∀ j < i, ∀ e' : Exercise, c.exercises[j]? = some e' → e'.completed = true := by
  rw [nextIncomplete, List.find?_eq_some_iff_getElem]
  constructor
  · rintro ⟨hopen, i, hi, rfl, hbefore⟩
    refine ⟨i, List.getElem?_eq_getElem hi, by simpa using hopen, fun j hj e' he' => ?_⟩
    obtain ⟨hlt, rfl⟩ := List.getElem?_eq_some_iff.1 he'
    simpa using hbefore j hj
  · rintro ⟨i, he, hopen, hbefore⟩
    obtain ⟨hi, rfl⟩ := List.getElem?_eq_some_iff.1 he
    refine ⟨by simpa using hopen, i, hi, rfl, fun j hj => ?_⟩
    simpa using hbefore j hj _ (List.getElem?_eq_getElem (hj.trans hi))

/-- No exercise is next if as many are done as there are. -/
theorem nextIncomplete_eq_none_iff :
    c.nextIncomplete = none ↔ c.stats.completed = c.stats.total := by
  simp only [nextIncomplete, stats, List.find?_eq_none, List.countP_eq_length, Bool.not_eq_true,
    Bool.not_eq_false']

/-! ## How much is done -/

/-- The flag of an exercise is what the stored record says of its name. -/
theorem Stored.completed_eq (h : Stored host file c s) (hc : c.Agrees) :
    ∃ p, Progress.load host file s = .ok p ∧
      ∀ e ∈ c.exercises, e.completed = p.isCompleted e.name := by
  obtain ⟨p, hload, hp⟩ := h
  refine ⟨p, hload, fun e he => ?_⟩
  rw [hc.flags e he, Progress.isCompleted, Progress.isCompleted, hp]

/-- The figures are those of the progress that is read back from the file. -/
theorem Stored.stats_eq (h : Stored host file c s) (hc : c.Agrees) :
    ∃ p, Progress.load host file s = .ok p ∧
      c.stats = ⟨c.exercises.countP fun e => p.isCompleted e.name, c.size⟩ := by
  obtain ⟨p, hload, hflags⟩ := h.completed_eq hc
  refine ⟨p, hload, ?_⟩
  have hcount : c.exercises.countP (·.completed) =
      c.exercises.countP fun e => p.isCompleted e.name :=
    List.countP_congr fun e he => by rw [hflags e he]
  rw [stats, hcount, size]

/-! ## Where to go on -/

/-- The exercise that is pointed at, if it is one of the catalog. -/
def Pointed (c : Catalog) (e : Exercise) : Prop :=
  e ∈ c.exercises ∧ c.progress.currentExercise = some e.name

/-- The position to go on at: of the exercise that is pointed at, else of the next one, else 0. -/
inductive Resumes (c : Catalog) : Nat → Prop where
  | pointed {i : Nat} {e : Exercise} : c.exercises[i]? = some e → c.Pointed e → Resumes c i
  | next {i : Nat} {e : Exercise} : (∀ x, ¬ c.Pointed x) → c.nextIncomplete = some e →
      c.exercises[i]? = some e → Resumes c i
  | first : (∀ x, ¬ c.Pointed x) → c.nextIncomplete = none → Resumes c 0

/-- The position to go on at is one that may be gone on at. -/
theorem resumes_resumePosition (c : Catalog) : c.Resumes c.resumePosition := by
  rcases c.resumePosition_cases with ⟨e, he, hpointer⟩ | ⟨hastray, hfirst⟩
  · exact .pointed he ⟨List.mem_of_getElem? he, hpointer⟩
  have hno : ∀ x, ¬ c.Pointed x := fun x hx => hastray x.name (List.mem_map_of_mem hx.1) hx.2
  rcases hfirst with ⟨e, he, hopen, hbefore⟩ | ⟨hall, hzero⟩
  · exact .next hno (nextIncomplete_eq_some_iff.2 ⟨_, he, hopen, hbefore⟩) he
  · rw [hzero]
    exact .first hno (List.find?_eq_none.2 fun e he => by simpa using hall e he)

/-- No two positions have exercises of one name. -/
theorem eq_of_name_eq (hnodup : c.names.Nodup) (hi : c.exercises[i]? = some e)
    (hj : c.exercises[j]? = some e') (hname : e.name = e'.name) : i = j := by
  have hpos : c.position? e.name = some i := (position?_iff hnodup _ _).2 ⟨e, hi, rfl⟩
  exact eq_of_position? hnodup hpos hj hname.symm

/-- There is one position to go on at. -/
theorem Resumes.unique (hnodup : c.names.Nodup) (hi : c.Resumes i) (hj : c.Resumes j) : i = j := by
  cases hi with
  | pointed he hp =>
      cases hj with
      | pointed he' hp' =>
          have hname := Option.some.inj (hp.2.symm.trans hp'.2)
          exact eq_of_name_eq hnodup he he' hname
      | next hastray => exact absurd hp (hastray _)
      | first hastray => exact absurd hp (hastray _)
  | next hastray hnext he =>
      cases hj with
      | pointed _ hp => exact absurd hp (hastray _)
      | next _ hnext' he' =>
          cases Option.some.inj (hnext.symm.trans hnext')
          exact eq_of_name_eq hnodup he he' rfl
      | first _ hnone => cases hnext.symm.trans hnone
  | first hastray hnone =>
      cases hj with
      | pointed _ hp => exact absurd hp (hastray _)
      | next _ hnext => cases hnext.symm.trans hnone
      | first => rfl

theorem resumes_iff (hnodup : c.names.Nodup) (i : Nat) :
    c.Resumes i ↔ i = c.resumePosition := by
  constructor
  · exact fun hi => hi.unique hnodup c.resumes_resumePosition
  · rintro rfl
    exact c.resumes_resumePosition

end Catalog
end Trainer
