import Mathlib
import Trainer.Proofs.Catalog.Attempts
import Trainer.Proofs.Session.History

/-!
# The account of runs

A session keeps of every exercise how often it was tried, when it was tried last, and whether it is
completed.  `run_state_accounted` says that these are read off what the session has heard: only a
message that a run of the exercise is over changes them, each such message counts as one attempt,
and a success completes the exercise unless it could not be stored.  Saves may fail at any point,
and a save that fails takes back the completion and not the attempt.

## The argument

* One message is a map over the exercises (`update_exercises`): it leaves an exercise as it is, or
  it is the end of a run of this exercise (`Heard.mark`).
* So a history is the fold of these maps (`History.exercises_eq`).
* What the fold gives is read off by induction on the history, one reading at a time
  (`attempts_marks`, `lastAttempt_marks`, `completed_marks`).
-/

namespace Trainer
namespace Session

open Catalog

variable {σ : Type} {store : ProgressStore σ} {s : Session} {h : σ}

/-! ## One message -/

/-- Whether the message is the end of a successful run of an exercise, and that could be stored. -/
def Heard.completes (store : ProgressStore σ) (name : String) (x : Heard σ) : Bool :=
  match x.message with
  | .runFinished n v => n == name && v.success && (x.failure? store).isNone
  | _ => false

/-- What a message makes of an exercise. -/
def Heard.mark (store : ProgressStore σ) (x : Heard σ) (e : Exercise) : Exercise :=
  if x.ends e.name then attempted (store.now x.machine) (x.completes store e.name) e else e

/-- A message ends a run of an exercise if it says so by name. -/
theorem ends_iff (name : String) (x : Heard σ) :
    x.ends name = true ↔ ∃ v, x.message = .runFinished name v := by
  obtain ⟨m, s, h⟩ := x
  cases m with
  | runFinished n v => simp [Heard.ends]
  | key a => simp [Heard.ends]
  | tick => simp [Heard.ends]
  | runStarted n => simp [Heard.ends]
  | fileChanged e => simp [Heard.ends]
  | watchError error => simp [Heard.ends]
  | watcherClosed => simp [Heard.ends]

/-- A message completes a name if it brings its success and the save went well. -/
theorem completes_iff (name : String) (x : Heard σ) :
    x.completes store name = true ↔
      ∃ v, x.message = .runFinished name v ∧ v.success = true ∧ x.failure? store = none := by
  obtain ⟨m, s, h⟩ := x
  cases m with
  | runFinished n v => simp [Heard.completes, and_assoc]
  | key a => simp [Heard.completes]
  | tick => simp [Heard.completes]
  | runStarted n => simp [Heard.completes]
  | fileChanged e => simp [Heard.completes]
  | watchError error => simp [Heard.completes]
  | watcherClosed => simp [Heard.completes]

/-- What completes an exercise is the end of a run of it. -/
theorem completes_of_not_ends {x : Heard σ} {name : String} (hx : x.ends name = false) :
    x.completes store name = false := by
  rw [Bool.eq_false_iff] at hx ⊢
  intro hdone
  obtain ⟨v, hm, -, -⟩ := (completes_iff name x).1 hdone
  exact hx ((ends_iff name x).2 ⟨v, hm⟩)

/-- A message that is not the end of a run leaves every exercise as it is. -/
theorem mark_of_not_ends {x : Heard σ} {e : Exercise} (hx : x.ends e.name = false) :
    x.mark store e = e := by
  rw [Heard.mark, hx]
  rfl

@[simp] theorem name_mark (x : Heard σ) (e : Exercise) : (x.mark store e).name = e.name := by
  unfold Heard.mark
  split
  · rfl
  · rfl

/-- Every message does to the exercises what it makes of each of them. -/
theorem update_exercises (hs : s.catalog.Agrees) (m : Message) :
    (update store m s h).1.1.catalog.exercises =
      s.catalog.exercises.map (Heard.mark store ⟨m, s, h⟩) := by
  have still (hm : ∀ name, Heard.ends name (⟨m, s, h⟩ : Heard σ) = false) :
      s.catalog.exercises.map (Heard.mark store ⟨m, s, h⟩) = s.catalog.exercises := by
    refine (List.map_congr_left fun e _ => ?_).trans (List.map_id _)
    exact mark_of_not_ends (hm e.name)
  cases m with
  | key a =>
      rw [still fun _ => rfl]
      exact (act_continues a).exercises
  | runFinished name v =>
      have hcount := counted_recordAttempt store name v.success s.catalog h
      have hcatalog : (update store (.runFinished name v) s h).1.1.catalog =
          (recordAttempt store name v.success (s.catalog, h)).2.1 := by
        simp only [update, finishRun]
        split <;> rfl
      rw [hcatalog, hcount.exercises hs]
      refine List.map_congr_left fun e _ => ?_
      by_cases hname : e.name = name
      · have hends : Heard.ends e.name (⟨.runFinished name v, s, h⟩ : Heard σ) = true := by
          simp [Heard.ends, hname]
        have hdone : Heard.completes store e.name ⟨.runFinished name v, s, h⟩ =
            (v.success && (recordAttempt store name v.success (s.catalog, h)).1.isOk) := by
          rw [← isNone_complaint?]
          simp [Heard.completes, hname, Heard.failure?, Heard.call?, call?, Call.failure?]
        rw [if_pos hname, Heard.mark, if_pos hends, hdone]
      · have hends : Heard.ends e.name (⟨.runFinished name v, s, h⟩ : Heard σ) = false := by
          simpa [Heard.ends] using fun heq => hname heq.symm
        rw [if_neg hname, mark_of_not_ends hends]
  | fileChanged e =>
      rw [still fun _ => rfl]
      simp only [update]
      split
      · rw [scheduleRun_catalog]
      · rfl
  | tick => exact (still fun _ => rfl).symm
  | runStarted name => exact (still fun _ => rfl).symm
  | watchError error => exact (still fun _ => rfl).symm
  | watcherClosed => exact (still fun _ => rfl).symm

/-- A message keeps flags and record in agreement. -/
theorem agrees_update (hs : s.catalog.Agrees) (m : Message) :
    (update store m s h).1.1.catalog.Agrees := by
  have hdoes : (update store m s h).1.1.catalog =
      ((s.call? m).elim (s.catalog, h) fun call => (call.perform store (s.catalog, h)).2).1 :=
    congrArg Prod.fst (update_performs m)
  rw [hdoes]
  cases s.call? m with
  | none => exact hs
  | some call => exact call.agrees_perform store hs h

/-! ## All messages -/

/-- What a history makes of an exercise. -/
def marks (store : ProgressStore σ) (log : List (Heard σ)) (e : Exercise) : Exercise :=
  log.foldr (Heard.mark store) e

variable {meanwhile : σ → σ → Prop} {c : Catalog} {extension : String} {h₀ : σ}
  {log : List (Heard σ)}

/-- The exercises of a session are those of its catalog with what its history makes of them. -/
theorem History.exercises_eq (hs : History store meanwhile c extension h₀ log s h)
    (hc : c.Agrees) :
    s.catalog.Agrees ∧ s.catalog.exercises = c.exercises.map (marks store log) := by
  induction hs with
  | new => exact ⟨hc, (List.map_id _).symm⟩
  | start _ ih => exact ih
  | message m _ ih =>
      refine ⟨agrees_update ih.1 m, ?_⟩
      rw [update_exercises ih.1, ih.2, List.map_map]
      rfl
  | elsewhere _ _ ih => exact ih

/-! ## Readings of a history -/

section Readings

variable {e : Exercise}

@[simp] theorem name_marks (log : List (Heard σ)) (e : Exercise) :
    (marks store log e).name = e.name := by
  induction log with
  | nil => rfl
  | cons x log ih => exact (name_mark x _).trans ih

/-- Attempts are the ends of runs that were heard, as far as they are counted. -/
theorem attempts_marks (hfresh : e.attempts = 0) (log : List (Heard σ)) :
    (marks store log e).attempts =
      min Exercise.attemptLimit (log.countP (Heard.ends e.name)) := by
  induction log with
  | nil => simpa [marks] using hfresh
  | cons x log ih =>
      have hstep : marks store (x :: log) e = x.mark store (marks store log e) := rfl
      rw [hstep]
      cases hx : x.ends e.name with
      | false =>
          rw [mark_of_not_ends (by rwa [name_marks]), ih, List.countP_cons_of_neg (by simp [hx])]
      | true =>
          rw [Heard.mark, name_marks, if_pos hx, List.countP_cons_of_pos hx]
          -- The count has reached the limit before, or there is room for one more.
          change min ((marks store log e).attempts + 1) Exercise.attemptLimit = _
          omega

/-- The last attempt was made when the end of a run was heard last. -/
theorem lastAttempt_marks (hfresh : e.lastAttempt = none) (log : List (Heard σ)) :
    (marks store log e).lastAttempt =
      (log.find? (Heard.ends e.name)).map fun x => store.now x.machine := by
  induction log with
  | nil => exact hfresh
  | cons x log ih =>
      have hstep : marks store (x :: log) e = x.mark store (marks store log e) := rfl
      rw [hstep]
      cases hx : x.ends e.name with
      | false =>
          rw [mark_of_not_ends (by rwa [name_marks]), ih, List.find?_cons_of_neg (by simp [hx])]
      | true =>
          rw [Heard.mark, name_marks, if_pos hx, List.find?_cons_of_pos hx]
          rfl

/-- An exercise is completed that was so before, or by a success that could be stored. -/
theorem completed_marks (log : List (Heard σ)) (e : Exercise) :
    (marks store log e).completed =
      (e.completed || log.any (Heard.completes store e.name)) := by
  induction log with
  | nil => simp [marks]
  | cons x log ih =>
      have hstep : marks store (x :: log) e = x.mark store (marks store log e) := rfl
      rw [hstep, List.any_cons]
      cases hx : x.ends e.name with
      | false =>
          have hno : x.completes store e.name = false := completes_of_not_ends hx
          rw [mark_of_not_ends (by rwa [name_marks]), ih, hno, Bool.false_or]
      | true =>
          rw [Heard.mark, name_marks, if_pos hx]
          change ((marks store log e).completed || x.completes store e.name) = _
          rw [ih, Bool.or_assoc, Bool.or_comm (x.completes store e.name)]

end Readings

/-! ## The account -/

/-- A success fails to be recorded exactly if it has to be stored and cannot be. -/
theorem failure?_eq_none_iff {x : Heard σ} {name : String} {v : Verdict} {e : Exercise}
    (hx : x.session.catalog.Agrees) (hm : x.message = .runFinished name v)
    (hv : v.success = true) (he : e ∈ x.session.catalog.exercises) (hname : e.name = name) :
    x.failure? store = none ↔ e.completed = true ∨
      (store.save (x.session.catalog.progress.setCompleted name (store.now x.machine))
        x.machine).1 = .ok () := by
  have hcount := counted_recordAttempt store name true x.session.catalog x.machine
  have hfailure : x.failure? store =
      complaint? (recordAttempt store name true (x.session.catalog, x.machine)).1 := by
    simp [Heard.failure?, Heard.call?, hm, call?, hv, Call.failure?]
  calc
    x.failure? store = none
      ↔ (recordAttempt store name true (x.session.catalog, x.machine)).1.isOk = true := by
        rw [hfailure, ← isNone_complaint?, Option.isNone_iff_eq_none]
    _ ↔ _ := hcount.isOk_iff hx he hname

/--
The run state of every exercise is an account of the ends of its runs that a session has heard:
attempts are their number up to a limit, the last attempt is the time of the last one, and the
exercise is completed if it was so at the load or one of them is a success that did not fail on its
save.  An exercise that is completed already does not fail, for there is nothing to store.  Any
other message leaves the exercise as it is.
-/
theorem run_state_accounted {τ : Type} {host : Host τ} {paths : CatalogPaths} {t : τ}
    (hload : load host paths t = .ok c) (hs : History store meanwhile c extension h₀ log s h) :
    s.catalog.size = c.size ∧
    (∀ (i : Nat) (e₀ e : Exercise), c.exercises[i]? = some e₀ → s.catalog.exercises[i]? = some e →
      e.name = e₀.name ∧
      e.attempts = min (2 ^ 32 - 1) (log.countP (Heard.ends e.name)) ∧
      e.lastAttempt = (log.find? (Heard.ends e.name)).map (fun x => store.now x.machine) ∧
      (e.lastAttempt.isSome = true ↔ 0 < log.countP (Heard.ends e.name)) ∧
      (e.completed = true ↔ e₀.completed = true ∨ ∃ x ∈ log, ∃ v,
        x.message = .runFinished e.name v ∧ v.success = true ∧ x.failure? store = none)) ∧
    (∀ x ∈ log, ∀ (name : String) (v : Verdict) (e : Exercise),
      x.message = .runFinished name v → v.success = true → e ∈ x.session.catalog.exercises →
      e.name = name → (x.failure? store = none ↔ e.completed = true ∨
        (store.save (x.session.catalog.progress.setCompleted name (store.now x.machine))
          x.machine).1 = .ok ())) ∧
    ∀ (m : Message) (h' : σ) (i : Nat) (e : Exercise),
      s.catalog.exercises[i]? = some e → (∀ v, m ≠ .runFinished e.name v) →
      (update store m s h').1.1.catalog.exercises[i]? = some e := by
  obtain ⟨hagrees, hexercises⟩ := hs.exercises_eq (agrees_of_load hload)
  refine ⟨?_, ?_, ?_, ?_⟩
  · rw [Catalog.size, hexercises, List.length_map, Catalog.size]
  · intro i e₀ e hi he
    rw [hexercises, List.getElem?_map, hi] at he
    obtain rfl : marks store log e₀ = e := Option.some.inj he
    obtain ⟨hattempts, hlast⟩ := untried_of_load hload (List.mem_of_getElem? hi)
    rw [name_marks]
    refine ⟨rfl, attempts_marks hattempts log, lastAttempt_marks hlast log, ?_, ?_⟩
    · rw [lastAttempt_marks hlast log, Option.isSome_map, List.find?_isSome, List.countP_pos_iff]
    · rw [completed_marks log e₀, Bool.or_eq_true, List.any_eq_true]
      simp only [completes_iff]
  · intro x hx name v e hm hv he hname
    -- The message was heard in a session whose flags and record agreed.
    obtain ⟨earlier, hearlier⟩ := hs.exists_of_mem hx
    exact failure?_eq_none_iff (hearlier.exercises_eq (agrees_of_load hload)).1 hm hv he hname
  · intro m h' i e hi hm
    have hnot : Heard.ends e.name (⟨m, s, h'⟩ : Heard σ) = false := by
      rw [Bool.eq_false_iff]
      intro hends
      obtain ⟨v, hv⟩ := (ends_iff e.name _).1 hends
      exact hm v hv
    rw [update_exercises hagrees, List.getElem?_map, hi, Option.map_some, mark_of_not_ends hnot]

/-! ## A success that is refused at first -/

def passed : Verdict :=
  (Verdict.start "hello").addPhase ⟨.build, true, "", false, Duration.zero⟩ |>.finish Duration.zero

def helloStore : ProgressStore Shelf :=
  helloHost.progressStore helloPaths.progressFile

/-- The success is heard when there is no room to store it. -/
def refusedHello : Heard Shelf :=
  ⟨.runFinished "hello" passed, ofCatalog helloLoaded "go", helloShelf⟩

/-- The session after that. -/
def unsavedHello : Session :=
  (update helloStore refusedHello.message refusedHello.session refusedHello.machine).1.1

/-- The success is heard once more when there is room. -/
def storedHello : Heard Shelf :=
  ⟨.runFinished "hello" passed, unsavedHello, { helloShelf with full := false }⟩

/-- The session after both. -/
def savedHello : Session :=
  (update helloStore storedHello.message storedHello.session storedHello.machine).1.1

/-- The machine after both. -/
def savedShelf : Shelf :=
  (update helloStore storedHello.message storedHello.session storedHello.machine).2

/-- What the two messages come to, in one evaluation. -/
theorem hello_heard : load helloHost helloPaths helloShelf = .ok helloLoaded ∧
    ((refusedHello.failure? helloStore).isSome = true ∧ storedHello.failure? helloStore = none) ∧
    helloLoaded.exercises[0]?.map (·.name) = some "hello" ∧
    savedHello.catalog.exercises[0]?.map (·.name) = some "hello" := by
  decide +kernel

/-- Between the two messages room has been made. -/
theorem history_savedHello : History helloStore (fun _ _ => True) helloLoaded "go" helloShelf
    [storedHello, refusedHello] savedHello savedShelf := by
  have hfirst : History helloStore (fun _ _ => True) helloLoaded "go" helloShelf [refusedHello]
      unsavedHello _ := .message refusedHello.message .new
  exact .message storedHello.message (.elsewhere hfirst trivial)

/-- Both runs are counted, and the second one completes the exercise. -/
theorem run_state_accounted_hello :
    load helloHost helloPaths helloShelf = .ok helloLoaded ∧
    History helloStore (fun _ _ => True) helloLoaded "go" helloShelf
      [storedHello, refusedHello] savedHello savedShelf ∧
    (refusedHello.failure? helloStore).isSome = true ∧
    ∃ e : Exercise, savedHello.catalog.exercises[0]? = some e ∧ e.name = "hello" ∧
      e.attempts = 2 ∧ e.completed = true := by
  obtain ⟨hload, ⟨hrefused, hstored⟩, hfirst, hnow⟩ := hello_heard
  obtain ⟨e₀, he₀, -⟩ := Option.map_eq_some_iff.1 hfirst
  obtain ⟨e, he, hname⟩ := Option.map_eq_some_iff.1 hnow
  have haccount := (run_state_accounted hload history_savedHello).2.1 0 e₀ e he₀ he
  rw [hname] at haccount
  obtain ⟨-, hattempts, -, -, hcompleted⟩ := haccount
  have hdone : e.completed = true :=
    hcompleted.2 (.inr ⟨storedHello, List.mem_cons_self, passed, rfl, rfl, hstored⟩)
  exact ⟨hload, history_savedHello, hrefused, e, he, hname, hattempts, hdone⟩

end Session
end Trainer
