import Mathlib
import Trainer.Proofs.Catalog.Agreement
import Trainer.Proofs.Progress.Shelf

/-!
# The account of completions

The completion of an exercise is kept in three places: the flag of the exercise, the record in
memory, and the stored record.  `Run` is any sequence of calls on a loaded catalog, in which any of
the saves may fail, and `completions_accounted` says that the three places agree after every call
and hold exactly what was loaded and what calls that succeeded have completed.

## The argument

* The flags agree with the record in memory (`Agrees`).
* The stored record is the one in memory (`Stored`).  A save that succeeds stores the time of the
  clock with it, so it can be read back; a save that fails leaves the stored record, and the change
  that it was for is not in the record of completions, or is taken back.
* A call changes the record only by completing its own name, and does so exactly when it is a
  completion that succeeds (`Marked.lookup`).
-/

namespace Trainer
namespace Catalog

variable {σ : Type} {host : Host σ} {file : Path} {c c' : Catalog} {s s' : σ} {name : String}

/-! ## The stored record -/

/-- The record that is read back from the file is the one in memory. -/
def Stored (host : Host σ) (file : Path) (c : Catalog) (s : σ) : Prop :=
  ∃ p, Progress.load host file s = .ok p ∧ p.exercises = c.progress.exercises

/-- What was saved at a time of the clock is stored. -/
theorem stored_of_save (hkeeps : host.Keeps file) (hclock : ∀ s, (host.now s).isValid = true)
    {p : Progress} (hordered : Progress.Ordered p.exercises) {t : σ}
    (htime : p.lastUpdated = some (host.now t)) (hc : c'.progress.exercises = p.exercises)
    (hsave : Progress.save host file p s = (.ok (), s')) : Stored host file c' s' := by
  refine ⟨p, Progress.load_of_saved hkeeps.toReplaces hordered (fun time hmem => ?_) hsave, hc.symm⟩
  rw [htime] at hmem
  cases hmem
  exact hclock t

/-- A record that did not change is stored after a save that failed. -/
theorem Stored.of_unsaved (h : Stored host file c s) (hkeeps : host.Keeps file) {p : Progress}
    {cause : Progress.SaveFailure} (hc : c'.progress.exercises = c.progress.exercises)
    (hsave : Progress.save host file p s = (.error cause, s')) : Stored host file c' s' := by
  obtain ⟨q, hload, hq⟩ := h
  refine ⟨q, ?_, hq.trans hc.symm⟩
  rw [Progress.load_congr (Progress.look_of_unsaved hkeeps hsave)]
  exact hload

/-- File and memory agree again after a marking: either both have it or neither. -/
theorem Stored.marked (h : Stored host file c s) (hc : c.Agrees) (hkeeps : host.Keeps file)
    (hclock : ∀ s, (host.now s).isValid = true) {r : Except Failure Bool}
    (hmark : Marked (host.progressStore file) name c s r c' s') : Stored host file c' s' := by
  cases hmark with
  | unknown => exact h
  | already => exact h
  | stored hpos hopen hsave =>
      -- The name was not recorded before, so the time of the clock is saved with it.
      have hnew := hc.not_isCompleted hpos hopen
      refine stored_of_save hkeeps hclock (t := s) ?_ ?_ rfl hsave
      · exact Progress.setCompleted_ordered _ hc.ordered
      · change (c.progress.setCompleted name _).lastUpdated = _
        rw [Progress.setCompleted_of_not_isCompleted hnew]
        rfl
  | refused _ _ hsave => exact h.of_unsaved hkeeps rfl hsave

/--
An attempt leaves file and memory agreeing, and stores something just if it marks the exercise.
-/
theorem Stored.counted (h : Stored host file c s) (hc : c.Agrees) (hkeeps : host.Keeps file)
    (hclock : ∀ s, (host.now s).isValid = true) {success : Bool} {r : Except Failure Nat}
    (hcount : Counted (host.progressStore file) name success c s r c' s') :
    Stored host file c' s' := by
  have hcounted (i : Nat) (now : Timestamp) : Stored host file (c.counted i now) s := h
  cases hcount with
  | unknown => exact h
  | failed => exact hcounted _ _
  | passed _ _ hmark => exact (hcounted _ _).marked (hc.countedAt _ _) hkeeps hclock hmark
  | refused _ _ hmark => exact (hcounted _ _).marked (hc.countedAt _ _) hkeeps hclock hmark

/-- A move leaves the record as it is, so a pointer that could not be stored does no harm to it. -/
theorem Stored.moved (h : Stored host file c s) (hc : c.Agrees) (hkeeps : host.Keeps file)
    (hclock : ∀ s, (host.now s).isValid = true) {r : Except Failure Unit}
    (hmove : Moved (host.progressStore file) name c s r c' s') : Stored host file c' s' := by
  cases hmove with
  | unknown => exact h
  | there => exact h
  | stored _ hne hsave =>
      refine stored_of_save hkeeps hclock (t := s) ?_ ?_ rfl hsave
      · rw [Progress.exercises_setCurrent]
        exact hc.ordered
      · rw [Progress.setCurrent, if_neg hne]
        rfl
  | refused _ _ hsave => exact h.of_unsaved hkeeps (Progress.exercises_setCurrent _ _ _) hsave

/-! ## The record in memory -/

variable {store : ProgressStore σ}

/-- A marking that succeeds completes its name; one that fails leaves the record. -/
theorem Marked.lookup {r : Except Failure Bool} (h : Marked store name c s r c' s') (n : String) :
    c'.progress.exercises.lookup n =
      if r.isOk = true ∧ n = name then some true else c.progress.exercises.lookup n := by
  cases h with
  | unknown => simp [Except.isOk, Except.toBool]
  | already _ _ hdone =>
      split
      · rename_i hn
        rw [hn.2]
        exact Progress.lookup_of_isCompleted hdone
      · rfl
  | stored =>
      simp only [Catalog.marked, Except.isOk, Except.toBool, true_and]
      exact Progress.lookup_setCompleted _ _ _ n
  | refused => simp [Except.isOk, Except.toBool]

/--
An attempt records the name if it was a success that could be stored, and records nothing else.
-/
theorem Counted.lookup {success : Bool} {r : Except Failure Nat}
    (h : Counted store name success c s r c' s') (n : String) :
    c'.progress.exercises.lookup n =
      if (success = true ∧ r.isOk = true) ∧ n = name then some true
      else c.progress.exercises.lookup n := by
  cases h with
  | unknown => simp [Except.isOk, Except.toBool]
  | failed _ hfailed =>
      rw [if_neg (by simp [hfailed])]
      rfl
  | passed _ hpassed hmark =>
      have hlookup := hmark.lookup n
      simpa [hpassed, Except.isOk, Except.toBool] using hlookup
  | refused _ hpassed hmark =>
      have hlookup := hmark.lookup n
      simpa [hpassed, Except.isOk, Except.toBool] using hlookup

theorem Moved.lookup {r : Except Failure Unit} (h : Moved store name c s r c' s') (n : String) :
    c'.progress.exercises.lookup n = c.progress.exercises.lookup n := by
  cases h with
  | unknown => rfl
  | there => rfl
  | stored => exact congrArg (List.lookup n) (Progress.exercises_setCurrent _ _ _)
  | refused => exact congrArg (List.lookup n) (Progress.exercises_setCurrent _ _ _)

/-! ## Calls -/

/-- A change that is asked of a catalog. -/
inductive Call where
  | markCompleted (name : String)
  | recordAttempt (name : String) (success : Bool)
  | setCurrent (name : String)
deriving DecidableEq, Repr

namespace Call

/-- The name that a call completes when it succeeds. -/
def completes? : Call → Option String
  | .markCompleted name => some name
  | .recordAttempt name success => if success then some name else none
  | .setCurrent _ => none

/-- Makes a call, and says whether it succeeded. -/
def perform (store : ProgressStore σ) (call : Call) (cs : Catalog × σ) : Bool × (Catalog × σ) :=
  match call with
  | .markCompleted name =>
      ((Catalog.markCompleted store name cs).1.isOk, (Catalog.markCompleted store name cs).2)
  | .recordAttempt name success =>
      ((Catalog.recordAttempt store name success cs).1.isOk,
        (Catalog.recordAttempt store name success cs).2)
  | .setCurrent name =>
      ((Catalog.setCurrent store name cs).1.isOk, (Catalog.setCurrent store name cs).2)

/-- What a call leads to is an ending of one of the operations. -/
theorem perform_cases (store : ProgressStore σ) (call : Call) (c : Catalog) (s : σ) :
    (∃ name r, Marked store name c s r (call.perform store (c, s)).2.1
      (call.perform store (c, s)).2.2) ∨
    (∃ name success r, Counted store name success c s r (call.perform store (c, s)).2.1
      (call.perform store (c, s)).2.2) ∨
    ∃ name r, Moved store name c s r (call.perform store (c, s)).2.1
      (call.perform store (c, s)).2.2 := by
  cases call with
  | markCompleted name => exact .inl ⟨name, _, marked_of_eq rfl⟩
  | recordAttempt name success => exact .inr (.inl ⟨name, success, _, counted_of_eq rfl⟩)
  | setCurrent name => exact .inr (.inr ⟨name, _, moved_of_eq rfl⟩)

/-- No call changes where progress is kept. -/
theorem progressFile_perform (store : ProgressStore σ) (call : Call) (c : Catalog) (s : σ) :
    (call.perform store (c, s)).2.1.progressFile = c.progressFile := by
  rcases perform_cases store call c s with ⟨_, _, hmark⟩ | ⟨_, _, _, hcount⟩ | ⟨_, _, hmove⟩
  · exact hmark.progressFile
  · exact hcount.progressFile
  · exact hmove.progressFile

/-- Every call keeps flags and record in agreement. -/
theorem agrees_perform (store : ProgressStore σ) (call : Call) (hc : c.Agrees) (s : σ) :
    (call.perform store (c, s)).2.1.Agrees := by
  rcases perform_cases store call c s with ⟨_, _, hmark⟩ | ⟨_, _, _, hcount⟩ | ⟨_, _, hmove⟩
  · exact hc.marked hmark
  · exact hc.counted hcount
  · exact hc.moved hmove

end Call

/-- The names that the calls of a log have completed. -/
def completedBy (log : List (Call × Bool)) : List String :=
  log.filterMap fun x => if x.2 then x.1.completes? else none

theorem mem_completedBy_cons {call : Call} {succeeded : Bool} {log : List (Call × Bool)}
    {n : String} : n ∈ completedBy ((call, succeeded) :: log) ↔
      (succeeded = true ∧ call.completes? = some n) ∨ n ∈ completedBy log := by
  cases succeeded with
  | true =>
      cases h : call.completes? with
      | none => simp [completedBy, h]
      | some m => simp [completedBy, h, @eq_comm _ n m]
  | false => simp [completedBy]

/--
A catalog and the machine after calls on the catalog, with the calls and whether they succeeded,
the last one first.  Calls save to the catalog's file; between them anything may happen on the
machine but a change of that file.
-/
inductive Run (host : Host σ) (c₀ : Catalog) (s₀ : σ) :
    List (Call × Bool) → Catalog → σ → Prop where
  | start : Run host c₀ s₀ [] c₀ s₀
  | call {log : List (Call × Bool)} {c c' : Catalog} {s s' : σ} {succeeded : Bool} (call : Call) :
      Run host c₀ s₀ log c s →
      call.perform (host.progressStore c.progressFile) (c, s) = (succeeded, (c', s')) →
      Run host c₀ s₀ ((call, succeeded) :: log) c' s'
  | elsewhere {log : List (Call × Bool)} {c : Catalog} {s s' : σ} :
      Run host c₀ s₀ log c s →
      host.look c.progressFile s' = host.look c.progressFile s →
      Run host c₀ s₀ log c s'

/-! ## The invariant -/

/-- Flags, record and file agree, and account for the calls of a log. -/
structure Accounted (host : Host σ) (file : Path) (c₀ : Catalog) (log : List (Call × Bool))
    (c : Catalog) (s : σ) : Prop where
  agrees : c.Agrees
  progressFile : c.progressFile = file
  stored : Stored host file c s
  lookup : ∀ n, c.progress.exercises.lookup n =
    if n ∈ completedBy log then some true else c₀.progress.exercises.lookup n

/-- A call that completes its name when it succeeds, and changes nothing else of the record. -/
theorem lookup_completedBy_cons {c₀ : Catalog} {log : List (Call × Bool)} {call : Call}
    {succeeded : Bool} {n : String}
    (hlog : c.progress.exercises.lookup n =
      if n ∈ completedBy log then some true else c₀.progress.exercises.lookup n)
    (hcall : c'.progress.exercises.lookup n =
      if succeeded = true ∧ call.completes? = some n then some true
      else c.progress.exercises.lookup n) :
    c'.progress.exercises.lookup n =
      if n ∈ completedBy ((call, succeeded) :: log) then some true
      else c₀.progress.exercises.lookup n := by
  rw [hcall, hlog]
  -- The call itself completes the name, or one before it did, or none did.
  by_cases hnew : succeeded = true ∧ call.completes? = some n
  · rw [if_pos hnew, if_pos (mem_completedBy_cons.2 (.inl hnew))]
  · rw [if_neg hnew]
    by_cases hold : n ∈ completedBy log
    · rw [if_pos hold, if_pos (mem_completedBy_cons.2 (.inr hold))]
    · rw [if_neg hold, if_neg fun hmem => (mem_completedBy_cons.1 hmem).elim hnew hold]

/-- One call keeps the account. -/
theorem Accounted.call {c₀ : Catalog} {log : List (Call × Bool)} {succeeded : Bool} {call : Call}
    (h : Accounted host file c₀ log c s) (hkeeps : host.Keeps file)
    (hclock : ∀ s, (host.now s).isValid = true)
    (hcall : call.perform (host.progressStore file) (c, s) = (succeeded, (c', s'))) :
    Accounted host file c₀ ((call, succeeded) :: log) c' s' := by
  cases call with
  | markCompleted name =>
      rcases hmark : Catalog.markCompleted (host.progressStore file) name (c, s) with ⟨r, c₁, s₁⟩
      simp only [Call.perform, hmark, Prod.mk.injEq] at hcall
      obtain ⟨rfl, rfl, rfl⟩ := hcall
      have hend := marked_of_eq hmark
      refine ⟨h.agrees.marked hend, hend.progressFile.trans h.progressFile,
        h.stored.marked h.agrees hkeeps hclock hend, fun n => ?_⟩
      refine lookup_completedBy_cons (h.lookup n) ?_
      rw [hend.lookup n]
      simp [Call.completes?, @eq_comm _ n name]
  | recordAttempt name success =>
      rcases hcount : Catalog.recordAttempt (host.progressStore file) name success (c, s)
        with ⟨r, c₁, s₁⟩
      simp only [Call.perform, hcount, Prod.mk.injEq] at hcall
      obtain ⟨rfl, rfl, rfl⟩ := hcall
      have hend := counted_of_eq hcount
      refine ⟨h.agrees.counted hend, hend.progressFile.trans h.progressFile,
        h.stored.counted h.agrees hkeeps hclock hend, fun n => ?_⟩
      refine lookup_completedBy_cons (h.lookup n) ?_
      rw [hend.lookup n]
      cases success with
      | true => simp [Call.completes?, @eq_comm _ n name]
      | false => simp [Call.completes?]
  | setCurrent name =>
      rcases hmove : Catalog.setCurrent (host.progressStore file) name (c, s) with ⟨r, c₁, s₁⟩
      simp only [Call.perform, hmove, Prod.mk.injEq] at hcall
      obtain ⟨rfl, rfl, rfl⟩ := hcall
      have hend := moved_of_eq hmove
      refine ⟨h.agrees.moved hend, hend.progressFile.trans h.progressFile,
        h.stored.moved h.agrees hkeeps hclock hend, fun n => ?_⟩
      refine lookup_completedBy_cons (h.lookup n) ?_
      rw [hend.lookup n]
      simp [Call.completes?]

/-- The accounts balance after any calls, by induction on them. -/
theorem Run.accounted {c₀ : Catalog} {s₀ : σ} {log : List (Call × Bool)}
    (hrun : Run host c₀ s₀ log c s) (h₀ : Accounted host file c₀ [] c₀ s₀)
    (hkeeps : host.Keeps file) (hclock : ∀ s, (host.now s).isValid = true) :
    Accounted host file c₀ log c s := by
  induction hrun with
  | start => exact h₀
  | call call _ hcall ih =>
      rw [ih.progressFile] at hcall
      exact ih.call hkeeps hclock hcall
  | elsewhere _ hlook ih =>
      rw [ih.progressFile] at hlook
      obtain ⟨p, hload, hp⟩ := ih.stored
      exact ⟨ih.agrees, ih.progressFile, ⟨p, (Progress.load_congr hlook).trans hload, hp⟩,
        ih.lookup⟩

/-- A load finds flags, record and file in agreement, with nothing to account for. -/
theorem accounted_of_load {paths : CatalogPaths} (h : load host paths s = .ok c) :
    Accounted host paths.progressFile c [] c s := by
  obtain ⟨hprogress, hfile, -⟩ := exists_of_load h
  refine ⟨agrees_of_load h, hfile, ⟨c.progress, hprogress, rfl⟩, fun n => ?_⟩
  simp [completedBy]

/-- A marking that finds its exercise completed changes nothing at all. -/
theorem eq_of_marked_false {cs : Catalog × σ}
    (h : Catalog.markCompleted store name (c, s) = (.ok false, cs)) : cs = (c, s) := by
  have hend := marked_of_eq h
  cases cs
  cases hend
  rfl

/--
Whatever is asked of a loaded catalog, and whichever saves fail: the flags say what the record
says, the stored record is the one in memory, and the record is the loaded one with the names
completed that calls completed with success.  A marking that finds its exercise completed changes
neither the catalog nor the machine.
-/
theorem completions_accounted {paths : CatalogPaths} {c₀ : Catalog} {s₀ : σ}
    {log : List (Call × Bool)} (hkeeps : host.Keeps paths.progressFile)
    (hclock : ∀ s, (host.now s).isValid = true) (hload : load host paths s₀ = .ok c₀)
    (hrun : Run host c₀ s₀ log c s) :
    (∀ e ∈ c.exercises, e.completed = c.progress.isCompleted e.name) ∧
      (∃ p, Progress.load host paths.progressFile s = .ok p ∧
        p.exercises = c.progress.exercises) ∧
      (∀ n, c.progress.exercises.lookup n =
        if n ∈ completedBy log then some true else c₀.progress.exercises.lookup n) ∧
      ∀ n cs, Catalog.markCompleted (host.progressStore c.progressFile) n (c, s) =
        (.ok false, cs) → cs = (c, s) := by
  have h := hrun.accounted (accounted_of_load hload) hkeeps hclock
  exact ⟨h.agrees.flags, h.stored, h.lookup, fun _ _ => eq_of_marked_false⟩

/-! ## A project with one exercise -/

/-- A machine with one exercise and no room for more files. -/
def helloShelf : Shelf where
  directories := [⟨"/kata/exercises"⟩]
  files := [
    (⟨"/kata/exercises/hello.toml"⟩,
      "[exercise]\nname = \"hello\"\n\n[description]\ntitle = \"Hello\"\n\n" ++
        "[validation]\nmode = \"build\"\n\n[hints]\nlevel_1 = \"Say it.\"\n"),
    (⟨"/kata/exercises/hello.go"⟩, "package main\n")]
  full := true

def helloPaths : CatalogPaths where
  exercisesDir := ⟨"/kata/exercises"⟩
  solutionsDir := ⟨"/kata/solutions"⟩
  progressFile := ⟨"/kata/.state/progress.toml"⟩
  sourceExtension := "go"
  scaffoldFile := none

/-- The machine, at half past eight. -/
def helloHost : Host Shelf :=
  Shelf.host ⟨2024, 5, 17, 8, 30, 0, 0⟩

def helloLoaded : Catalog :=
  (load helloHost helloPaths helloShelf).toOption.getD default

/-- A success that cannot be stored. -/
def helloRefused : Bool × (Catalog × Shelf) :=
  (Call.recordAttempt "hello" true).perform (helloHost.progressStore helloLoaded.progressFile)
    (helloLoaded, helloShelf)

/-- The same exercise marked completed once there is room. -/
def helloStored : Bool × (Catalog × Shelf) :=
  (Call.markCompleted "hello").perform (helloHost.progressStore helloRefused.2.1.progressFile)
    (helloRefused.2.1, { helloRefused.2.2 with full := false })

/-- What the two calls come to, in one evaluation. -/
theorem hello_calls : load helloHost helloPaths helloShelf = .ok helloLoaded ∧
    (helloRefused.1 = false ∧ helloStored.1 = true ∧
      helloStored.2.1.progress.isCompleted "hello" = true) ∧
    Progress.sidePath helloPaths.progressFile ≠ helloPaths.progressFile := by
  decide +kernel

theorem run_helloRefused : Run helloHost helloLoaded helloShelf
    [(.recordAttempt "hello" true, false)] helloRefused.2.1 helloRefused.2.2 :=
  .call _ .start (Prod.ext hello_calls.2.1.1 rfl)

/-- Between the two calls room has been made. -/
theorem run_helloStored : Run helloHost helloLoaded helloShelf
    [(.markCompleted "hello", true), (.recordAttempt "hello" true, false)]
    helloStored.2.1 helloStored.2.2 := by
  have hroom : helloHost.look helloRefused.2.1.progressFile
      { helloRefused.2.2 with full := false } =
        helloHost.look helloRefused.2.1.progressFile helloRefused.2.2 :=
    Shelf.look_congr _ rfl rfl
  exact .call _ (.elsewhere run_helloRefused hroom) (Prod.ext hello_calls.2.1.2.1 rfl)

/-- The account of a completion that is refused at first and then stored. -/
theorem completions_accounted_hello :
    load helloHost helloPaths helloShelf = .ok helloLoaded ∧
      (helloRefused.1 = false ∧ helloStored.1 = true ∧
        helloStored.2.1.progress.isCompleted "hello" = true) ∧
      (∀ e ∈ helloStored.2.1.exercises,
        e.completed = helloStored.2.1.progress.isCompleted e.name) ∧
      (∃ p, Progress.load helloHost helloPaths.progressFile helloStored.2.2 = .ok p ∧
        p.exercises = helloStored.2.1.progress.exercises) ∧
      (∀ n, helloStored.2.1.progress.exercises.lookup n =
        if n ∈ completedBy [(.markCompleted "hello", true), (.recordAttempt "hello" true, false)]
        then some true else helloLoaded.progress.exercises.lookup n) ∧
      ∀ n cs, Catalog.markCompleted (helloHost.progressStore helloStored.2.1.progressFile) n
        helloStored.2 = (.ok false, cs) → cs = helloStored.2 := by
  obtain ⟨hload, hcalls, hside⟩ := hello_calls
  exact ⟨hload, hcalls,
    completions_accounted (Shelf.keeps _ hside) (fun _ => rfl) hload run_helloStored⟩

end Catalog
end Trainer
