import Mathlib
import Trainer.Proofs.Session.Account

/-!
# What is said at the end of a run

When a run is over and no other one follows, the session says how it went: the exercise has been
completed, or it was before and has passed once more, or it has failed, or the success could not be
stored.  `announcements_true` says that this is true of the stored progress, whatever has failed
before: a completion is announced exactly if it was not stored before and is stored now.

## The argument

* What is said is decided by the flag of the exercise before the run is counted, and by whether the
  count fails.  The flag says what the record says, so there are four endings (`Ending`).
* The record in memory is the stored one before and after (`History.accounted`).
* No two of the texts are the same (`Announcement.text_injective`), so the ending can be read off
  the text (`Ending.eq_text_iff`).
-/

namespace Trainer
namespace Session

open Catalog

/-! ## The texts -/

/-- How a run went, in the words of a session. -/
inductive Announcement where
  | completed
  | passed
  | failed (attempts : Nat)
deriving DecidableEq, Repr

namespace Announcement

variable {name : String}

def text (name : String) : Announcement → String
  | .completed => "✓ " ++ name ++ " completed! Press n for the next one"
  | .passed => "✓ " ++ name ++ " passed"
  | .failed attempts => "✗ " ++ name ++ " failed (attempt " ++ toString attempts ++ ")"

def mark : Announcement → Char
  | .failed _ => '✗'
  | _ => '✓'

def ending : Announcement → String
  | .completed => " completed! Press n for the next one"
  | .passed => " passed"
  | .failed attempts => " failed (attempt " ++ (toString attempts ++ ")")

@[simp] theorem ending_completed :
    completed.ending = " completed! Press n for the next one" := rfl

@[simp] theorem ending_passed : passed.ending = " passed" := rfl

@[simp] theorem ending_failed (attempts : Nat) :
    (failed attempts).ending = " failed (attempt " ++ (toString attempts ++ ")") := rfl

theorem toList_text (name : String) (a : Announcement) :
    (a.text name).toList = a.mark :: ' ' :: (name.toList ++ a.ending.toList) := by
  cases a with
  | completed => simp [text, mark]
  | passed => simp [text, mark]
  | failed attempts => simp [text, mark]

/-- Announcements that end alike are the same. -/
theorem ending_injective {a b : Announcement} (heq : a.ending = b.ending) : a = b := by
  -- The letter behind the blank tells them apart, but for the number of attempts.
  have hletter := congrArg (fun text => text.toList[1]?) heq
  cases a with
  | completed =>
      cases b with
      | completed => rfl
      | passed => simp at hletter
      | failed k => simp at hletter
  | passed =>
      cases b with
      | completed => simp at hletter
      | passed => rfl
      | failed k => simp at hletter
  | failed k =>
      cases b with
      | completed => simp at hletter
      | passed => simp at hletter
      | failed k' =>
          have hnumber : toString k = toString k' :=
            (String.append_left_inj ")").1 ((String.append_right_inj _).1 heq)
          exact congrArg failed (Nat.repr_injective hnumber)

/-- An announcement of a run of an exercise is known by its text. -/
theorem text_injective {a b : Announcement} (heq : a.text name = b.text name) : a = b := by
  rw [← String.toList_inj, toList_text, toList_text] at heq
  refine ending_injective (String.toList_inj.1 ?_)
  simpa using (List.cons.inj heq).2

/-- No announcement speaks of progress that could not be stored. -/
theorem unsavedText_ne_text (f : Failure) (a : Announcement) : unsavedText f ≠ a.text name := by
  intro heq
  have hstart := startsWith_unsavedText f
  rw [heq, Text.startsWith, toList_text] at hstart
  cases a with
  | completed => cases hstart
  | passed => cases hstart
  | failed attempts => cases hstart

end Announcement

/-! ## The endings of a run -/

/--
What is said of a run of an exercise, whether it is recorded as completed before and after, and how
often it has been tried then.
-/
inductive Ending (name : String) (v : Verdict) (before after : Progress) (attempts : Nat) :
    String → Prop where
  | failed : v.success = false →
      Ending name v before after attempts (Announcement.text name (.failed attempts))
  | passed : v.success = true → before.isCompleted name = true →
      Ending name v before after attempts (Announcement.text name .passed)
  | completed : v.success = true → before.isCompleted name = false →
      after.isCompleted name = true →
      Ending name v before after attempts (Announcement.text name .completed)
  | unsaved (f : Failure) : v.success = true → before.isCompleted name = false →
      after.isCompleted name = false → Ending name v before after attempts (unsavedText f)

section Ending

variable {name text : String} {v : Verdict} {before after : Progress} {attempts : Nat}

/-- An ending tells the announcement that it makes, if it makes one. -/
theorem Ending.eq_text_iff (h : Ending name v before after attempts text) (a : Announcement) :
    text = a.text name ↔
      (a = .completed ∧ before.isCompleted name = false ∧ after.isCompleted name = true ∧
        v.success = true) ∨
      (a = .passed ∧ v.success = true ∧ before.isCompleted name = true) ∨
      (a = .failed attempts ∧ v.success = false) := by
  have hknown (b : Announcement) : b.text name = a.text name ↔ a = b :=
    ⟨fun heq => (Announcement.text_injective heq).symm, fun heq => heq ▸ rfl⟩
  cases h with
  | failed hv => simp [hknown, hv]
  | passed hv hbefore => simp [hknown, hv, hbefore]
  | completed hv hbefore hafter => simp [hknown, hv, hbefore, hafter]
  | unsaved f hv hbefore hafter =>
      simp [Announcement.unsavedText_ne_text f a, hv, hbefore, hafter]

end Ending

variable {σ : Type} {store : ProgressStore σ} {s : Session} {h : σ} {name : String} {v : Verdict}

/-- The end of a run that could be counted is announced. -/
theorem status_of_counted {attempts : Nat} (hidle : s.rerunPending = false)
    (hcount : (recordAttempt store name v.success (s.catalog, h)).1 = .ok attempts) :
    (update store (.runFinished name v) s h).1.1.status =
      some (finishedText name v.success (s.wouldComplete name) attempts) := by
  simp [update, finishRun, hidle, hcount]

/-- An attempt that could not be stored is reported, if no other run is waiting. -/
theorem status_of_uncounted {f : Failure} (hidle : s.rerunPending = false)
    (hcount : (recordAttempt store name v.success (s.catalog, h)).1 = .error f) :
    (update store (.runFinished name v) s h).1.1.status = some (unsavedText f) :=
  ((finishRun_settles hcount).reported (by simp [hidle])).1

/-- A success would be the first one exactly if none is recorded. -/
theorem wouldComplete_eq (hs : s.catalog.Agrees) (hname : name ∈ s.catalog.names) :
    s.wouldComplete name = !s.catalog.progress.isCompleted name := by
  obtain ⟨e, he, rfl⟩ := List.mem_map.1 hname
  unfold wouldComplete Catalog.find?
  split
  · rename_i e' hfind
    have hname' : e'.name = e.name := by simpa using List.find?_some hfind
    rw [hs.flags e' (List.mem_of_find?_eq_some hfind), hname']
  · rename_i hfind
    exact absurd (beq_self_eq_true e.name) (List.find?_eq_none.1 hfind e he)

/-- A message that a run is over has it counted. -/
theorem catalog_runFinished (name : String) (v : Verdict) :
    (update store (.runFinished name v) s h).1.1.catalog =
      (recordAttempt store name v.success (s.catalog, h)).2.1 :=
  congrArg Prod.fst (update_performs (.runFinished name v))

theorem exists_ok_of_isOk {ε α : Type} {r : Except ε α} (h : r.isOk = true) : ∃ a, r = .ok a := by
  cases r with
  | ok a => exact ⟨a, rfl⟩
  | error e => cases h

/-- The attempts at the position of an exercise are those of the exercise. -/
theorem attemptsAt_of_mem {c : Catalog} {i : Nat} {e : Exercise} (hnodup : c.names.Nodup)
    (hpos : c.position? e.name = some i) (he : e ∈ c.exercises) :
    c.attemptsAt i = e.attempts := by
  obtain ⟨j, hj⟩ := List.getElem?_of_mem he
  obtain rfl : i = j := eq_of_position? hnodup hpos hj rfl
  simp [Catalog.attemptsAt, hj]

/-- The end of a run of an exercise of the catalog is one of the endings. -/
theorem exists_ending (store : ProgressStore σ) (h : σ) (v : Verdict) (hs : s.catalog.Agrees)
    (hidle : s.rerunPending = false) (hname : name ∈ s.catalog.names) :
    ∃ e ∈ (update store (.runFinished name v) s h).1.1.catalog.exercises, e.name = name ∧
      ∃ text, (update store (.runFinished name v) s h).1.1.status = some text ∧
        Ending name v s.catalog.progress
          (update store (.runFinished name v) s h).1.1.catalog.progress e.attempts text := by
  rcases hrecord : recordAttempt store name v.success (s.catalog, h) with ⟨r, c', h'⟩
  have hcount := counted_of_eq hrecord
  have hcatalog : (update store (.runFinished name v) s h).1.1.catalog = c' := by
    rw [catalog_runFinished, hrecord]
  have hcounted {attempts : Nat} (hr : r = .ok attempts) :
      (update store (.runFinished name v) s h).1.1.status =
        some (finishedText name v.success (!s.catalog.progress.isCompleted name) attempts) := by
    rw [← wouldComplete_eq hs hname]
    exact status_of_counted hidle (by rw [hrecord, hr])
  have hname' : name ∈ c'.names := by rwa [hcount.names]
  obtain ⟨e, he, rfl⟩ := List.mem_map.1 hname'
  rw [hcatalog]
  refine ⟨e, he, rfl, ?_⟩
  cases hv : v.success with
  | false =>
      rw [hv] at hcount hcounted
      cases hcount with
      | unknown hpos => exact absurd rfl (name_ne_of_unknown hpos he)
      | @failed i hpos _ =>
          refine ⟨_, hcounted rfl, ?_⟩
          have hpos' : (s.catalog.counted i (store.now h)).position? e.name = some i := by
            rw [position?_congr (names_counted _ _ _), hpos]
          rw [attemptsAt_of_mem (hs.countedAt i _).nodup hpos' he]
          exact .failed hv
      | passed _ hno => cases hno
      | refused _ hno => cases hno
  | true =>
      rw [hv] at hcount hcounted hrecord
      rcases hcount.success_cases hs hname with ⟨hdone, hok, hsame, -⟩ | ⟨hopen, hok, hset, -⟩ |
        ⟨cause, hopen, hr, hsame, -⟩
      -- There was nothing to store.
      · obtain ⟨attempts, hr⟩ := exists_ok_of_isOk hok
        refine ⟨_, hcounted hr, ?_⟩
        rw [hdone]
        exact .passed hv hdone
      -- The success is stored.
      · obtain ⟨attempts, hr⟩ := exists_ok_of_isOk hok
        refine ⟨_, hcounted hr, ?_⟩
        rw [hopen]
        refine .completed hv hopen ?_
        rw [hset, Progress.isCompleted_setCompleted, if_pos rfl]
      -- The success could not be stored, and the record is as before.
      · refine ⟨_, status_of_uncounted (f := .unsaved cause) hidle ?_, .unsaved _ hv hopen ?_⟩
        · rw [hv, hrecord, hr]
        · rw [hsame, hopen]

/-- The end of a run of something else is never announced. -/
theorem status_of_unknown (store : ProgressStore σ) (h : σ) (v : Verdict)
    (hidle : s.rerunPending = false) (hname : name ∉ s.catalog.names) :
    (update store (.runFinished name v) s h).1.1.status = some (unsavedText (.notFound name)) := by
  refine status_of_uncounted hidle ?_
  rcases hrecord : recordAttempt store name v.success (s.catalog, h) with ⟨r, c', h'⟩
  have hknown {i : Nat} (hpos : s.catalog.position? name = some i) : name ∈ s.catalog.names := by
    obtain ⟨e, hi, rfl⟩ := getElem?_of_position? hpos
    exact List.mem_map_of_mem (List.mem_of_getElem? hi)
  cases counted_of_eq hrecord with
  | unknown => rfl
  | failed hpos => exact absurd (hknown hpos) hname
  | passed hpos => exact absurd (hknown hpos) hname
  | refused hpos => exact absurd (hknown hpos) hname

/-! ## What is stored -/

variable {host : Host σ} {paths : CatalogPaths} {c : Catalog} {extension : String}
  {log : List (Heard σ)} {h₀ h' : σ} {s' : Session} {effects : List Effect}

/-- An ending depends on the completions only. -/
theorem Ending.congr {before before' after after' : Progress} {attempts : Nat} {text : String}
    (hending : Ending name v before after attempts text)
    (hbefore : before'.exercises = before.exercises)
    (hafter : after'.exercises = after.exercises) :
    Ending name v before' after' attempts text := by
  have hsame {p p' : Progress} (hp : p'.exercises = p.exercises) :
      p.isCompleted name = p'.isCompleted name := by
    rw [Progress.isCompleted, Progress.isCompleted, hp]
  cases hending with
  | failed hv => exact .failed hv
  | passed hv hdone => exact .passed hv (hsame hbefore ▸ hdone)
  | completed hv hopen hdone => exact .completed hv (hsame hbefore ▸ hopen) (hsame hafter ▸ hdone)
  | unsaved f hv hopen hopen' =>
      exact .unsaved f hv (hsame hbefore ▸ hopen) (hsame hafter ▸ hopen')

/--
What is said when a run of an exercise is over is true of the stored progress, whatever saves have
failed before: that the exercise is completed exactly if it is a success, was not stored as completed
and is now; that it has passed exactly if it is a success and was stored as completed; that it has
failed, with the number of its attempts, exactly if it is no success.  Nothing of the kind is said of
a run of something that is not in the catalog.
-/
theorem announcements_true (hkeeps : host.Keeps paths.progressFile)
    (hclock : ∀ t, (host.now t).isValid = true) (hload : load host paths h₀ = .ok c)
    (hs : History (host.progressStore paths.progressFile)
      (fun t t' => host.look paths.progressFile t' = host.look paths.progressFile t)
      c extension h₀ log s h)
    (hidle : s.rerunPending = false)
    (hend : update (host.progressStore paths.progressFile) (.runFinished name v) s h =
      ((s', effects), h')) :
    (name ∈ c.names → ∃ p p' : Progress, ∃ e ∈ s'.catalog.exercises,
      Progress.load host paths.progressFile h = .ok p ∧
      Progress.load host paths.progressFile h' = .ok p' ∧
      e.name = name ∧
      (s'.status = some (Announcement.text name .completed) ↔
        p.isCompleted name = false ∧ p'.isCompleted name = true ∧ v.success = true) ∧
      (s'.status = some (Announcement.text name .passed) ↔
        v.success = true ∧ p.isCompleted name = true) ∧
      ∀ k, s'.status = some (Announcement.text name (.failed k)) ↔
        v.success = false ∧ k = e.attempts) ∧
    (name ∉ c.names → ∀ n a, s'.status ≠ some (Announcement.text n a)) := by
  have hnames : s.catalog.names = c.names := hs.reachable.map_exercises lasting_name
  have hbefore := hs.accounted hkeeps hclock hload fun _ _ hlook => hlook
  have hafter := (hs.message (.runFinished name v)).accounted hkeeps hclock hload
    fun _ _ hlook => hlook
  rw [hend] at hafter
  constructor
  · intro hname
    rw [← hnames] at hname
    obtain ⟨e, he, hename, text, hstatus, hending⟩ :=
      exists_ending (host.progressStore paths.progressFile) h v hbefore.agrees hidle hname
    rw [hend] at he hstatus hending
    obtain ⟨p, hp, hpsame⟩ := hbefore.stored
    obtain ⟨p', hp', hpsame'⟩ := hafter.stored
    have hiff := (hending.congr hpsame hpsame').eq_text_iff
    refine ⟨p, p', e, he, hp, hp', hename, ?_, ?_, fun k => ?_⟩
    · rw [hstatus, Option.some.injEq, hiff]
      simp
    · rw [hstatus, Option.some.injEq, hiff]
      simp
    · rw [hstatus, Option.some.injEq, hiff]
      simp [and_comm]
  · intro hname n a hsaid
    rw [← hnames] at hname
    have hstatus :=
      status_of_unknown (host.progressStore paths.progressFile) h v hidle hname
    rw [hend] at hstatus
    rw [hsaid, Option.some.injEq] at hstatus
    exact Announcement.unsavedText_ne_text _ a hstatus.symm

/-! ## A success that is refused at first -/

/-- What a session of the hello project may count on between two messages. -/
def HelloQuiet (t t' : Shelf) : Prop :=
  helloHost.look helloPaths.progressFile t' = helloHost.look helloPaths.progressFile t

/-- The machine after the refused success. -/
def refusedShelf : Shelf :=
  (update helloStore refusedHello.message refusedHello.session refusedHello.machine).2

/-- What the two messages come to here, in one evaluation. -/
theorem hello_announced :
    (storedHello.machine.directories = refusedShelf.directories ∧
      storedHello.machine.files.lookup helloPaths.progressFile =
        refusedShelf.files.lookup helloPaths.progressFile) ∧
    (unsavedHello.rerunPending = false ∧ "hello" ∈ helloLoaded.names) ∧
    savedHello.status = some (Announcement.text "hello" .completed) ∧
    Progress.sidePath helloPaths.progressFile ≠ helloPaths.progressFile := by
  decide +kernel

/-- The success was refused for want of room, and then room was made. -/
theorem history_unsavedHello : History helloStore HelloQuiet helloLoaded "go" helloShelf
    [refusedHello] unsavedHello storedHello.machine := by
  obtain ⟨⟨hdirs, hfile⟩, -⟩ := hello_announced
  have hfirst : History helloStore HelloQuiet helloLoaded "go" helloShelf [refusedHello]
      unsavedHello refusedShelf := .hear .new
  exact .elsewhere hfirst (Shelf.look_congr _ hdirs hfile)

/-- The second success is announced as a completion, so it is stored and was not before. -/
theorem announcements_true_hello :
    (load helloHost helloPaths helloShelf = .ok helloLoaded ∧
      History helloStore HelloQuiet helloLoaded "go" helloShelf [refusedHello] unsavedHello
        storedHello.machine ∧
      unsavedHello.rerunPending = false ∧ "hello" ∈ helloLoaded.names) ∧
    savedHello.status = some (Announcement.text "hello" .completed) ∧
    ∃ p p' : Progress,
      Progress.load helloHost helloPaths.progressFile storedHello.machine = .ok p ∧
      Progress.load helloHost helloPaths.progressFile savedShelf = .ok p' ∧
      p.isCompleted "hello" = false ∧ p'.isCompleted "hello" = true := by
  obtain ⟨-, ⟨hidle, hname⟩, hstatus, hside⟩ := hello_announced
  obtain ⟨p, p', e, -, hp, hp', -, hcompleted, -⟩ :=
    (announcements_true (Shelf.keeps _ hside) (fun _ => rfl) hello_heard.1 history_unsavedHello
      hidle rfl).1 hname
  exact ⟨⟨hello_heard.1, history_unsavedHello, hidle, hname⟩, hstatus, p, p', hp, hp',
    (hcompleted.1 hstatus).1, (hcompleted.1 hstatus).2.1⟩

end Session
end Trainer
