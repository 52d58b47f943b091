import Mathlib
import Trainer.Proofs.Catalog.Completion

/-!
# Moving the pointer

Moving the pointer changes the progress in memory first and stores it then.  A completion that
cannot be stored is taken back; a move that cannot be stored is not.  So after such a move the
pointer in memory is ahead of the stored one, and a second move to the same exercise finds it there
and stores nothing.

* The stored progress is the one in memory (`Synced`) as long as every move could be stored
  (`Run.synced`).
* Where the two differ, a move that succeeds may leave them so (`pointer_stored_iff`).
* `pointer_of_setCurrent` says what a move does in every catalog that is in use, and
  `setCurrent_not_durable` that a move may succeed without being stored, and fail without being
  taken back.
-/

namespace Trainer
namespace Catalog

variable {σ : Type} {host : Host σ} {file : Path} {c c' : Catalog} {s s' : σ} {name : String}

/-! ## Memory and file in step -/

/-- The progress that is read back from the file is the one in memory. -/
def Synced (host : Host σ) (file : Path) (c : Catalog) (s : σ) : Prop :=
  Progress.load host file s = .ok c.progress

/-- The pointer that is read back from the file is on the exercise of a name. -/
def PointerStored (host : Host σ) (file : Path) (name : String) (s : σ) : Prop :=
  ∃ p, Progress.load host file s = .ok p ∧ p.currentExercise = some name

/-- Progress that was saved at a time of the clock is in step. -/
theorem synced_of_save (hkeeps : host.Keeps file) (hclock : ∀ s, (host.now s).isValid = true)
    (hordered : Progress.Ordered c.progress.exercises) {t : σ}
    (htime : c.progress.lastUpdated = some (host.now t))
    (hsave : Progress.save host file c.progress s = (.ok (), s')) : Synced host file c s' := by
  refine Progress.load_of_saved hkeeps.toReplaces hordered (fun time hmem => ?_) hsave
  rw [htime] at hmem
  cases hmem
  exact hclock t

/-- Progress that did not change is in step after a save that failed. -/
theorem Synced.of_unsaved (h : Synced host file c s) (hkeeps : host.Keeps file) {p : Progress}
    {cause : Progress.SaveFailure} (hc : c'.progress = c.progress)
    (hsave : Progress.save host file p s = (.error cause, s')) : Synced host file c' s' := by
  unfold Synced
  rw [Progress.load_congr (Progress.look_of_unsaved hkeeps hsave), hc]
  exact h

/-- A marking that could not be stored is taken back, so memory and file stay in step. -/
theorem Synced.marked (h : Synced host file c s) (hc : c.Agrees) (hkeeps : host.Keeps file)
    (hclock : ∀ s, (host.now s).isValid = true) {r : Except Failure Bool}
    (hmark : Marked (host.progressStore file) name c s r c' s') : Synced host file c' s' := by
  cases hmark with
  | unknown => exact h
  | already => exact h
  | stored hpos hopen hsave =>
      have hnew := hc.not_isCompleted hpos hopen
      refine synced_of_save hkeeps hclock (t := s) ?_ ?_ hsave
      · exact Progress.setCompleted_ordered _ hc.ordered
      · change (c.progress.setCompleted name _).lastUpdated = _
        rw [Progress.setCompleted_of_not_isCompleted hnew]
        rfl
  | refused _ _ hsave => exact h.of_unsaved hkeeps rfl hsave

/-- File and memory agree again after an attempt, pointer included. -/
theorem Synced.counted (h : Synced host file c s) (hc : c.Agrees) (hkeeps : host.Keeps file)
    (hclock : ∀ s, (host.now s).isValid = true) {success : Bool} {r : Except Failure Nat}
    (hcount : Counted (host.progressStore file) name success c s r c' s') :
    Synced host file c' s' := by
  have hcounted (i : Nat) (now : Timestamp) : Synced host file (c.counted i now) s := h
  cases hcount with
  | unknown => exact h
  | failed => exact hcounted _ _
  | passed _ _ hmark => exact (hcounted _ _).marked (hc.countedAt _ _) hkeeps hclock hmark
  | refused _ _ hmark => exact (hcounted _ _).marked (hc.countedAt _ _) hkeeps hclock hmark

/-- A move that was stored brings memory and file in step, whether or not they were before. -/
theorem synced_of_moved (hc : c.Agrees) (hkeeps : host.Keeps file)
    (hclock : ∀ s, (host.now s).isValid = true)
    (hmove : Moved (host.progressStore file) name c s (.ok ()) c' s')
    (hne : c.progress.currentExercise ≠ some name) : Synced host file c' s' := by
  cases hmove with
  | there _ hthere => exact absurd hthere hne
  | stored _ _ hsave =>
      refine synced_of_save hkeeps hclock (t := s) ?_ ?_ hsave
      · change Progress.Ordered (c.progress.setCurrent name _).exercises
        rw [Progress.exercises_setCurrent]
        exact hc.ordered
      · change (c.progress.setCurrent name _).lastUpdated = _
        rw [Progress.setCurrent, if_neg hne]
        rfl

/-- A move that did not fail on an exercise keeps memory and file in step. -/
theorem Synced.moved (h : Synced host file c s) (hc : c.Agrees) (hkeeps : host.Keeps file)
    (hclock : ∀ s, (host.now s).isValid = true) {r : Except Failure Unit}
    (hmove : Moved (host.progressStore file) name c s r c' s')
    (hr : r.isOk = false → name ∉ c.names) : Synced host file c' s' := by
  cases r with
  | ok u =>
      by_cases hthere : c.progress.currentExercise = some name
      · cases hmove with
        | there => exact h
        | stored _ hne => exact absurd hthere hne
      · exact synced_of_moved hc hkeeps hclock hmove hthere
  | error f =>
      cases hmove with
      | unknown => exact h
      | refused hpos =>
          obtain ⟨e, he, hname⟩ := getElem?_of_position? hpos
          refine absurd ?_ (hr rfl)
          rw [← hname]
          exact List.mem_map_of_mem (List.mem_of_getElem? he)

/-! ## Calls -/

/-- Every move to an exercise of the catalog that is in a log could be stored. -/
def MovesStored (c : Catalog) (log : List (Call × Bool)) : Prop :=
  ∀ n, (Call.setCurrent n, false) ∈ log → n ∉ c.names

/-- A call leaves the names as they are, and keeps memory and file in step unless a move failed. -/
theorem Synced.call {call : Call} {succeeded : Bool} (h : Synced host file c s) (hc : c.Agrees)
    (hkeeps : host.Keeps file) (hclock : ∀ s, (host.now s).isValid = true)
    (hcall : call.perform (host.progressStore file) (c, s) = (succeeded, (c', s')))
    (hmoves : MovesStored c [(call, succeeded)]) : Synced host file c' s' := by
  cases call with
  | markCompleted name =>
      rcases hmark : Catalog.markCompleted (host.progressStore file) name (c, s) with ⟨r, c₁, s₁⟩
      simp only [Call.perform, hmark, Prod.mk.injEq] at hcall
      obtain ⟨rfl, rfl, rfl⟩ := hcall
      exact h.marked hc hkeeps hclock (marked_of_eq hmark)
  | recordAttempt name success =>
      rcases hcount : Catalog.recordAttempt (host.progressStore file) name success (c, s)
        with ⟨r, c₁, s₁⟩
      simp only [Call.perform, hcount, Prod.mk.injEq] at hcall
      obtain ⟨rfl, rfl, rfl⟩ := hcall
      exact h.counted hc hkeeps hclock (counted_of_eq hcount)
  | setCurrent name =>
      rcases hmove : Catalog.setCurrent (host.progressStore file) name (c, s) with ⟨r, c₁, s₁⟩
      simp only [Call.perform, hmove, Prod.mk.injEq] at hcall
      obtain ⟨rfl, rfl, rfl⟩ := hcall
      refine h.moved hc hkeeps hclock (moved_of_eq hmove) fun hfailed => hmoves name ?_
      rw [hfailed]
      exact List.mem_singleton_self _

theorem names_perform {store : ProgressStore σ} {call : Call} {succeeded : Bool}
    (hcall : call.perform store (c, s) = (succeeded, (c', s'))) : c'.names = c.names := by
  have hcases := Call.perform_cases store call c s
  rw [hcall] at hcases
  rcases hcases with ⟨_, _, hmark⟩ | ⟨_, _, _, hcount⟩ | ⟨_, _, hmove⟩
  · exact hmark.names
  · exact hcount.names
  · exact hmove.names

theorem Run.names {c₀ : Catalog} {s₀ : σ} {log : List (Call × Bool)}
    (hrun : Run host c₀ s₀ log c s) : c.names = c₀.names := by
  induction hrun with
  | start => rfl
  | call call _ hcall ih => exact (names_perform hcall).trans ih
  | elsewhere _ _ ih => exact ih

/-- As long as every move could be stored, the stored progress is the one in memory. -/
theorem Run.synced {c₀ : Catalog} {s₀ : σ} {log : List (Call × Bool)}
    (hrun : Run host c₀ s₀ log c s) (h₀ : Accounted host file c₀ [] c₀ s₀)
    (hsynced : Synced host file c₀ s₀) (hkeeps : host.Keeps file)
    (hclock : ∀ s, (host.now s).isValid = true) (hmoves : MovesStored c₀ log) :
    Synced host file c s := by
  induction hrun with
  | start => exact hsynced
  | call call hbefore hcall ih =>
      have haccount := hbefore.accounted h₀ hkeeps hclock
      rw [haccount.progressFile] at hcall
      refine (ih fun n hn => hmoves n (List.mem_cons_of_mem _ hn)).call haccount.agrees hkeeps
        hclock hcall fun n hn => ?_
      rw [hbefore.names]
      exact hmoves n (List.mem_singleton.1 hn ▸ List.mem_cons_self)
  | elsewhere hbefore hlook ih =>
      rw [(hbefore.accounted h₀ hkeeps hclock).progressFile] at hlook
      unfold Synced
      rw [Progress.load_congr hlook]
      exact ih hmoves

/-! ## Setting the pointer -/

/-- A move that succeeds is stored unless it finds the pointer there and the file lags behind. -/
theorem pointer_stored_iff (hc : c.Agrees) (hkeeps : host.Keeps file)
    (hclock : ∀ s, (host.now s).isValid = true)
    (hmove : Moved (host.progressStore file) name c s (.ok ()) c' s') :
    c'.progress.currentExercise = some name ∧
      (PointerStored host file name s' ↔
        (c.progress.currentExercise = some name → PointerStored host file name s)) := by
  by_cases hthere : c.progress.currentExercise = some name
  · cases hmove with
    | there => simp [hthere]
    | stored _ hne => exact absurd hthere hne
  · have hsynced := synced_of_moved hc hkeeps hclock hmove hthere
    have hmoved : c'.progress.currentExercise = some name := by
      cases hmove with
      | there _ hno => exact hno
      | stored => simp [Progress.setCurrent, hthere]
    exact ⟨hmoved, by simp [hthere], fun _ => ⟨_, hsynced, hmoved⟩⟩

/-- A move to where the pointer in memory is stores nothing. -/
theorem setCurrent_there {store : ProgressStore σ} {i : Nat} (hpos : c.position? name = some i)
    (hthere : c.progress.currentExercise = some name) (t : σ) :
    Catalog.setCurrent store name (c, t) = (.ok (), (c, t)) := by
  simp [Catalog.setCurrent, hpos, hthere]

/--
What setting the pointer does to a catalog in use, after any calls of which any may have failed.
When it succeeds, the pointer in memory is on the exercise, and it is stored there unless memory was
ahead of the file; that can only be after a move that could not be stored.  When the exercise is
unknown nothing changes.  When the pointer cannot be stored, it and the time stay changed in memory
and nothing else does; and from then on the same call succeeds without storing anything.
-/
theorem pointer_of_setCurrent {paths : CatalogPaths} {c₀ : Catalog} {s₀ : σ}
    {log : List (Call × Bool)} {r : Except Failure Unit}
    (hkeeps : host.Keeps paths.progressFile) (hclock : ∀ s, (host.now s).isValid = true)
    (hload : load host paths s₀ = .ok c₀) (hrun : Run host c₀ s₀ log c s)
    (hset : Catalog.setCurrent (host.progressStore c.progressFile) name (c, s) = (r, (c', s'))) :
    (r = .ok () →
      c'.progress.currentExercise = some name ∧
      (PointerStored host paths.progressFile name s' ↔
        (c.progress.currentExercise = some name →
          PointerStored host paths.progressFile name s)) ∧
      (MovesStored c₀ log → PointerStored host paths.progressFile name s')) ∧
    (∀ n, r = .error (.notFound n) → c' = c ∧ s' = s) ∧
    (∀ cause, r = .error (.unsaved cause) →
      c.progress.currentExercise ≠ some name ∧
      c' = { c with progress := { c.progress with
        currentExercise := some name, lastUpdated := some (host.now s) } } ∧
      host.look paths.progressFile s' = host.look paths.progressFile s ∧
      ∀ t, Catalog.setCurrent (host.progressStore c.progressFile) name (c', t) =
        (.ok (), (c', t))) := by
  have h := hrun.accounted (accounted_of_load hload) hkeeps hclock
  rw [h.progressFile] at hset
  have hmove := moved_of_eq hset
  refine ⟨?_, ?_, ?_⟩
  · rintro rfl
    obtain ⟨hmoved, hiff⟩ := pointer_stored_iff h.agrees hkeeps hclock hmove
    refine ⟨hmoved, hiff, fun hmoves => hiff.2 fun hthere => ?_⟩
    have hsynced : Synced host paths.progressFile c s :=
      hrun.synced (accounted_of_load hload) (exists_of_load hload).1 hkeeps hclock hmoves
    exact ⟨_, hsynced, hthere⟩
  · rintro n rfl
    cases hmove
    exact ⟨rfl, rfl⟩
  · rintro cause rfl
    cases hmove with
    | refused hpos hne hsave =>
        have hmoved : c.progress.setCurrent name (host.now s) = { c.progress with
            currentExercise := some name, lastUpdated := some (host.now s) } := by
          rw [Progress.setCurrent, if_neg hne]
        refine ⟨hne, congrArg (fun p => { c with progress := p }) hmoved,
          Progress.look_of_unsaved hkeeps hsave, setCurrent_there hpos ?_⟩
        exact congrArg Progress.currentExercise hmoved

/-! ## A move that cannot be stored -/

/-- The pointer set on a machine without room. -/
def helloMoved : Except Failure Unit × (Catalog × Shelf) :=
  Catalog.setCurrent (helloHost.progressStore helloLoaded.progressFile) "hello"
    (helloLoaded, helloShelf)

/-- The same once there is room. -/
def helloMovedAgain : Except Failure Unit × (Catalog × Shelf) :=
  Catalog.setCurrent (helloHost.progressStore helloMoved.2.1.progressFile) "hello"
    (helloMoved.2.1, { helloMoved.2.2 with full := false })

/-- What the two moves come to, in one evaluation. -/
theorem hello_moves : load helloHost helloPaths helloShelf = .ok helloLoaded ∧
    (helloMoved.1.isOk = false ∧ helloMoved.2.1.progress ≠ helloLoaded.progress) ∧
    helloMovedAgain.1 = .ok () ∧
    Progress.load helloHost helloPaths.progressFile helloMovedAgain.2.2 = .ok Progress.fresh := by
  decide +kernel

/-- Memory is ahead of the file after the move, and still is when room has been made. -/
theorem run_helloMoved : Run helloHost helloLoaded helloShelf [(.setCurrent "hello", false)]
    helloMoved.2.1 { helloMoved.2.2 with full := false } := by
  have hfailed : helloMoved.1.isOk = false := hello_moves.2.1.1
  have hroom : helloHost.look helloMoved.2.1.progressFile { helloMoved.2.2 with full := false } =
      helloHost.look helloMoved.2.1.progressFile helloMoved.2.2 := Shelf.look_congr _ rfl rfl
  exact .elsewhere (.call (.setCurrent "hello") .start (Prod.ext hfailed rfl)) hroom

/--
A move that fails may change the progress in memory, and a move that succeeds may not be stored: the
pointer is set where there is no room, and set again once there is.
-/
theorem setCurrent_not_durable :
    load helloHost helloPaths helloShelf = .ok helloLoaded ∧
      (helloMoved.1.isOk = false ∧ helloMoved.2.1.progress ≠ helloLoaded.progress) ∧
      Run helloHost helloLoaded helloShelf [(.setCurrent "hello", false)]
        helloMoved.2.1 { helloMoved.2.2 with full := false } ∧
      helloMovedAgain.1 = .ok () ∧
      ¬ PointerStored helloHost helloPaths.progressFile "hello" helloMovedAgain.2.2 := by
  obtain ⟨hload, hfailed, hagain, hfresh⟩ := hello_moves
  refine ⟨hload, hfailed, run_helloMoved, hagain, ?_⟩
  rintro ⟨p, hp, hpointer⟩
  rw [hfresh] at hp
  cases hp
  exact absurd hpointer (by decide)

/-- The second move succeeds, and would be stored only if the first one had been. -/
theorem pointer_of_setCurrent_hello :
    load helloHost helloPaths helloShelf = .ok helloLoaded ∧
      Run helloHost helloLoaded helloShelf [(.setCurrent "hello", false)]
        helloMoved.2.1 { helloMoved.2.2 with full := false } ∧
      helloMovedAgain.1 = .ok () ∧
      helloMovedAgain.2.1.progress.currentExercise = some "hello" ∧
      (PointerStored helloHost helloPaths.progressFile "hello" helloMovedAgain.2.2 ↔
        (helloMoved.2.1.progress.currentExercise = some "hello" →
          PointerStored helloHost helloPaths.progressFile "hello"
            { helloMoved.2.2 with full := false })) := by
  have hside : Progress.sidePath helloPaths.progressFile ≠ helloPaths.progressFile := by
    decide +kernel
  obtain ⟨hload, -, hok, -⟩ := hello_moves
  have hset : Catalog.setCurrent (helloHost.progressStore helloMoved.2.1.progressFile) "hello"
      (helloMoved.2.1, { helloMoved.2.2 with full := false }) =
        (helloMovedAgain.1, (helloMovedAgain.2.1, helloMovedAgain.2.2)) := rfl
  have h := (pointer_of_setCurrent (Shelf.keeps _ hside) (fun _ => rfl) hload run_helloMoved
    hset).1 hok
  exact ⟨hload, run_helloMoved, hok, h.1, h.2.1⟩

end Catalog
end Trainer
