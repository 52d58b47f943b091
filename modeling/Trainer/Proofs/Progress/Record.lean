import Mathlib
import Trainer.Progress

/-!
# The record of names

The record of completions is a list in strictly increasing order of names (`Ordered`), so each name
has one value, and putting the entries of a record together again gives the same record.

* setting a name keeps the order and changes no other name (`Ordered.insert`, `lookup_insert`);
* a record made from any entries is ordered (`ordered_ofEntries`), and from its own it is itself
  (`ofEntries_of_ordered`).
-/

namespace Trainer
namespace Progress

/-- Every name comes before those that follow it. -/
def Ordered (l : List (String × Bool)) : Prop :=
  l.Pairwise fun x y => x.1 < y.1

variable {l : List (String × Bool)} {name : String} {done : Bool}

theorem mem_insert {x : String × Bool} (h : x ∈ insert name done l) :
    x = (name, done) ∨ x ∈ l := by
  induction l with
  | nil => exact .inl (List.mem_singleton.1 h)
  | cons y rest ih =>
      unfold insert at h
      split at h
      · rcases List.mem_cons.1 h with hx | hx
        · exact .inl hx
        · exact .inr (List.mem_cons_of_mem y hx)
      split at h
      · rcases List.mem_cons.1 h with hx | hx
        · exact .inl hx
        · exact .inr hx
      · rcases List.mem_cons.1 h with hx | hx
        · exact .inr (by rw [hx]; exact List.mem_cons_self)
        · exact (ih hx).imp_right (List.mem_cons_of_mem y)

theorem lt_of_not_lt {a b : String} (hne : a ≠ b) (hlt : ¬ a < b) : b < a := by
  rcases Decidable.em (b < a) with h | h
  · exact h
  · exact absurd (String.le_antisymm (String.not_lt.1 h) (String.not_lt.1 hlt)) hne

/-- Setting a name keeps the order. -/
theorem Ordered.insert (h : Ordered l) : Ordered (Progress.insert name done l) := by
  induction l with
  | nil => exact List.pairwise_singleton _ _
  | cons y rest ih =>
      obtain ⟨hy, hrest⟩ := List.pairwise_cons.1 h
      unfold Progress.insert
      split
      case isTrue heq =>
        exact List.pairwise_cons.2 ⟨fun z hz => by rw [heq]; exact hy z hz, hrest⟩
      case isFalse hne =>
        split
        case isTrue hlt =>
          refine List.pairwise_cons.2 ⟨fun z hz => ?_, h⟩
          rcases List.mem_cons.1 hz with rfl | hz
          · exact hlt
          · exact String.lt_trans hlt (hy z hz)
        case isFalse hlt =>
          refine List.pairwise_cons.2 ⟨fun z hz => ?_, ih hrest⟩
          rcases mem_insert hz with rfl | hz
          · exact lt_of_not_lt hne hlt
          · exact hy z hz

/-- Setting a name gives it the value and changes no other name. -/
theorem lookup_insert (l : List (String × Bool)) (name : String) (done : Bool) (n : String) :
    (Progress.insert name done l).lookup n = if n = name then some done else l.lookup n := by
  induction l with
  | nil =>
      by_cases hn : n = name
      · simp [Progress.insert, hn]
      · have hbeq : (n == name) = false := by simpa using hn
        simp [Progress.insert, hn, List.lookup_cons, hbeq]
  | cons y rest ih =>
      obtain ⟨m, d⟩ := y
      unfold Progress.insert
      split
      case isTrue heq =>
        subst heq
        by_cases hn : n = name
        · simp [hn]
        · have hbeq : (n == name) = false := by simpa using hn
          simp [List.lookup_cons, hbeq, hn]
      case isFalse hne =>
        split
        case isTrue hlt =>
          by_cases hn : n = name
          · simp [hn]
          · have hbeq : (n == name) = false := by simpa using hn
            rw [List.lookup_cons, hbeq, if_neg hn]
        case isFalse hlt =>
          rw [List.lookup_cons, List.lookup_cons, ih]
          by_cases hm : n = m
          · have hname : n ≠ name := by
              rintro rfl
              exact hne hm
            simp [hm, hm ▸ hname]
          · have hbeq : (n == m) = false := by simpa using hm
            rw [hbeq]

/-! ## Records made from entries -/

/-- Sets names one after the other. -/
def ofEntries (entries : List (String × Bool)) : List (String × Bool) :=
  entries.foldl (fun acc x => Progress.insert x.1 x.2 acc) []

/-- Entries read one by one come in order. -/
theorem foldl_insert_ordered (entries : List (String × Bool)) : ∀ {acc : List (String × Bool)},
    Ordered acc → Ordered (entries.foldl (fun acc x => Progress.insert x.1 x.2 acc) acc) := by
  induction entries with
  | nil => exact id
  | cons x entries ih =>
      intro acc h
      exact ih h.insert

theorem ordered_ofEntries (entries : List (String × Bool)) : Ordered (ofEntries entries) :=
  foldl_insert_ordered entries List.Pairwise.nil

theorem insert_of_forall_lt (h : ∀ x ∈ l, x.1 < name) :
    Progress.insert name done l = l ++ [(name, done)] := by
  induction l with
  | nil => rfl
  | cons y rest ih =>
      obtain ⟨m, d⟩ := y
      -- The new name goes behind every name that comes before it.
      have hm : m < name := h (m, d) List.mem_cons_self
      have hne : name ≠ m := by
        rintro rfl
        exact String.lt_irrefl name hm
      have hnot : ¬ name < m := fun hlt => String.lt_irrefl m (String.lt_trans hm hlt)
      rw [Progress.insert, if_neg hne, if_neg hnot,
        ih fun x hx => h x (List.mem_cons_of_mem _ hx)]
      rfl

/-- Entries in order stay as they are when they are read one by one. -/
theorem foldl_insert_of_ordered (entries : List (String × Bool)) :
    ∀ {acc : List (String × Bool)}, Ordered (acc ++ entries) →
      entries.foldl (fun acc x => Progress.insert x.1 x.2 acc) acc = acc ++ entries := by
  -- The names set so far all come before those that are left.
  induction entries with
  | nil => simp
  | cons x entries ih =>
      intro acc h
      have hlast : ∀ y ∈ acc, y.1 < x.1 := by
        intro y hy
        exact (List.pairwise_append.1 h).2.2 y hy x List.mem_cons_self
      rw [List.foldl_cons, insert_of_forall_lt hlast]
      have hassoc : acc ++ [(x.1, x.2)] ++ entries = acc ++ x :: entries := by simp
      rw [ih (by rw [hassoc]; exact h), hassoc]

/-- A record made from its own entries is itself. -/
theorem ofEntries_of_ordered (h : Ordered l) : ofEntries l = l :=
  foldl_insert_of_ordered l h

/-! ## Operations on progress -/

theorem setCompleted_of_isCompleted {p : Progress} {now : Timestamp}
    (h : p.isCompleted name = true) : p.setCompleted name now = p := by
  rw [setCompleted, if_pos h]

/-- A name that is not completed yet is entered as completed, with the time. -/
theorem setCompleted_of_not_isCompleted {p : Progress} {now : Timestamp}
    (h : p.isCompleted name = false) : p.setCompleted name now =
      { p with exercises := Progress.insert name true p.exercises, lastUpdated := some now } := by
  rw [setCompleted, h]
  rfl

theorem setCompleted_ordered {p : Progress} (now : Timestamp) (h : Ordered p.exercises) :
    Ordered (p.setCompleted name now).exercises := by
  unfold setCompleted
  split
  · exact h
  · exact h.insert

/-- A name that is completed is entered as such. -/
theorem lookup_of_isCompleted {p : Progress} (h : p.isCompleted name = true) :
    p.exercises.lookup name = some true := by
  cases hlookup : p.exercises.lookup name with
  | none => simp [isCompleted, hlookup] at h
  | some d => simpa [isCompleted, hlookup] using h

/-- Completing a name records it and changes no other name. -/
theorem lookup_setCompleted (p : Progress) (name : String) (now : Timestamp) (n : String) :
    (p.setCompleted name now).exercises.lookup n =
      if n = name then some true else p.exercises.lookup n := by
  cases hdone : p.isCompleted name with
  | true =>
      rw [setCompleted_of_isCompleted hdone]
      split
      · rename_i hn
        rw [hn]
        exact lookup_of_isCompleted hdone
      · rfl
  | false =>
      rw [setCompleted_of_not_isCompleted hdone]
      exact lookup_insert p.exercises name true n

/-- Marking a name completes that name and no other. -/
theorem isCompleted_setCompleted (p : Progress) (name : String) (now : Timestamp) (n : String) :
    (p.setCompleted name now).isCompleted n =
      if n = name then true else p.isCompleted n := by
  rw [isCompleted, lookup_setCompleted p name now n]
  split
  · rfl
  · rfl

@[simp] theorem currentExercise_setCompleted (p : Progress) (name : String) (now : Timestamp) :
    (p.setCompleted name now).currentExercise = p.currentExercise := by
  unfold setCompleted
  split
  · rfl
  · rfl

@[simp] theorem exercises_setCurrent (p : Progress) (name : String) (now : Timestamp) :
    (p.setCurrent name now).exercises = p.exercises := by
  unfold setCurrent
  split
  · rfl
  · rfl

end Progress
end Trainer
