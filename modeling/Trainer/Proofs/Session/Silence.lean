import Mathlib
import Trainer.Proofs.Catalog.Times
import Trainer.Proofs.Session.Navigation

/-!
# Messages that only inform

A tick, an error or the end of the watcher, and the news that a run has begun are for the learner's
eyes: what a session asks for does not depend on them.  Whatever messages the event loop hands to a
session, leaving out any of these changes neither what is asked for nor what is kept, but for the
texts shown (`informing_does_not_schedule`).

## The argument

* `Matches` relates two sessions that differ in texts, in the spinner and in times only.  It is kept
  when both hear one message, on machines that save alike (`Matches.update`).
* It is kept as well when one of them hears a message that only informs (`Matches.of_informs`).  The
  news that a run has begun writes `running`, by which the session decides whether a run may start;
  in the event loop it writes there what stands there (`Tracks.running_of_begun`).
* `Thinned` leaves out messages of the turns that led to a state of the loop; by induction on these
  turns the sessions match.
-/

namespace Trainer

variable {α : Type} {f : Timestamp → α}

/-- Whether a message only tells the learner something. -/
def Message.informs : Message → Bool
  | .tick => true
  | .runStarted _ => true
  | .watchError _ => true
  | .watcherClosed => true
  | _ => false

/-- An effect, and what is seen of the time in the exercise to be run. -/
def Effect.seen (f : Timestamp → α) : Effect → Effect × Option α
  | .run e => (.run (e.seen f).1, (e.seen f).2)
  | .awaitFileEvent => (.awaitFileEvent, none)
  | .quit => (.quit, none)

theorem Effect.seen_injective (hf : Function.Injective f) : Function.Injective (seen f) := by
  intro x y h
  obtain ⟨hrest, htime⟩ := Prod.mk.inj h
  cases x with
  | run e =>
      cases y with
      | run e' =>
          have hseen : e.seen f = e'.seen f := Prod.ext (Effect.run.inj hrest) htime
          rw [Exercise.seen_injective hf hseen]
      | awaitFileEvent => cases hrest
      | quit => cases hrest
  | awaitFileEvent =>
      cases y with
      | awaitFileEvent => rfl
      | run e => cases hrest
      | quit => cases hrest
  | quit =>
      cases y with
      | quit => rfl
      | run e => cases hrest
      | awaitFileEvent => cases hrest

namespace Session

variable {σ τ : Type} {store : ProgressStore σ} {other : ProgressStore τ} {s s' : Session}
  {h : σ} {k : τ}

/-! ## Sessions that match -/

/-- Two sessions that differ at most in the texts shown, the spinner and times. -/
structure Matches (f : Timestamp → α) (s s' : Session) : Prop where
  catalog : Catalog.Alike f s.catalog s'.catalog
  sourceExtension : s.sourceExtension = s'.sourceExtension
  current : s.current = s'.current
  view : s.view = s'.view
  cursor : s.cursor = s'.cursor
  running : s.running = s'.running
  rerunPending : s.rerunPending = s'.rerunPending
  latest : s.latest = s'.latest
  quitting : s.quitting = s'.quitting

/-- Matching sessions that ask for the same. -/
structure AnswersAlike (f : Timestamp → α) (x y : Session × List Effect) : Prop where
  session : Matches f x.1 y.1
  effects : x.2.map (Effect.seen f) = y.2.map (Effect.seen f)

theorem Matches.refl (s : Session) : Matches f s s :=
  ⟨.refl _, rfl, rfl, rfl, rfl, rfl, rfl, rfl, rfl⟩

theorem Matches.currentExercise (hs : Matches f s s') :
    s.currentExercise.seen f = s'.currentExercise.seen f := by
  have hlist (t : Session) : t.currentExercise.seen f =
      ((t.catalog.exercises.map (Exercise.seen f))[t.current]?).getD
        ((default : Exercise).seen f) := by
    rw [Session.currentExercise, List.getElem?_map, Option.getD_map]
  rw [hlist s, hlist s', hs.catalog.exercises, hs.current]

theorem Matches.currentName (hs : Matches f s s') :
    s.currentExercise.name = s'.currentExercise.name :=
  congrArg (·.1.name) hs.currentExercise

/-! ## One message in two sessions -/

theorem Matches.beginRun (hs : Matches f s s') : AnswersAlike f s.beginRun s'.beginRun := by
  refine ⟨{ hs with running := ?_ }, ?_⟩
  · exact congrArg some hs.currentName
  · simp [Session.beginRun, Effect.seen, hs.currentExercise]

theorem Matches.scheduleRun (hs : Matches f s s') :
    AnswersAlike f s.scheduleRun s'.scheduleRun := by
  have hbusy : (s.running.isSome = true) = (s'.running.isSome = true) := by rw [hs.running]
  simp only [Session.scheduleRun, hbusy]
  split
  · exact ⟨{ hs with rerunPending := rfl }, rfl⟩
  · exact hs.beginRun

theorem Matches.accepts (hs : Matches f s s') (e : FileEvent) : s.accepts e = s'.accepts e := by
  have hsource : s.currentExercise.sourcePath = s'.currentExercise.sourcePath :=
    congrArg (·.1.sourcePath) hs.currentExercise
  rw [Session.accepts, Session.accepts, hs.sourceExtension, hsource]

theorem Matches.nameAt (hs : Matches f s s') (i : Nat) : s.nameAt i = s'.nameAt i := by
  have hplaced : Matches f { s with current := i } { s' with current := i } :=
    { hs with current := rfl }
  exact hplaced.currentName

/-- In matching sessions a move asks for the same, on machines that save alike. -/
theorem Matches.moveTo (hs : Matches f s s') (hm : SavesAlike f store other h k) {i j : Nat}
    (hij : i = j) : AnswersAlike f (moveTo store i s h).1 (moveTo other j s' k).1 := by
  subst hij
  rw [moveTo_eq, moveTo_eq, hs.nameAt i]
  refine Matches.scheduleRun { hs with catalog := ?_, current := rfl, cursor := rfl }
  exact hs.catalog.setCurrent hm _

/-- In matching sessions a key asks for the same, on machines that save alike. -/
theorem Matches.act (hs : Matches f s s') (hm : SavesAlike f store other h k) (a : Action) :
    AnswersAlike f (act store a s h).1 (act other a s' k).1 := by
  have hmain : (s.view = .main) = (s'.view = .main) := by rw [hs.view]
  have hlist : (s.view = .list) = (s'.view = .list) := by rw [hs.view]
  have hsize : s.catalog.size = s'.catalog.size := hs.catalog.size
  -- Whether the key does anything is decided alike in the two sessions.
  cases a with
  | quit => exact ⟨{ hs with quitting := rfl }, rfl⟩
  | next =>
      have hnext : (s.current + 1 < s.catalog.size) = (s'.current + 1 < s'.catalog.size) := by
        rw [hs.current, hsize]
      simp only [Session.act, goNext, hmain, hnext]
      split
      · split
        · exact hs.moveTo hm (congrArg (· + 1) hs.current)
        · exact ⟨{ hs with }, rfl⟩
      · exact ⟨hs, rfl⟩
  | previous =>
      have hback : (0 < s.current) = (0 < s'.current) := by rw [hs.current]
      simp only [Session.act, goBack, hmain, hback]
      split
      · split
        · exact hs.moveTo hm (congrArg (· - 1) hs.current)
        · exact ⟨{ hs with }, rfl⟩
      · exact ⟨hs, rfl⟩
  | toggleHint =>
      refine ⟨{ hs with view := ?_ }, rfl⟩
      change s.toggled .hint = s'.toggled .hint
      rw [toggled, toggled, hs.view]
  | toggleList =>
      simp only [Session.act, hlist]
      split
      · exact ⟨{ hs with view := rfl }, rfl⟩
      · exact ⟨{ hs with view := rfl, cursor := hs.current }, rfl⟩
  | run =>
      have hrunning := hs.running
      simp only [Session.act]
      cases hrun : s'.running with
      | some name =>
          simp only [hrunning, hrun]
          exact ⟨{ hs with running := rfl }, rfl⟩
      | none =>
          simp only [hrunning, hrun]
          exact hs.beginRun
  | select =>
      have hchoice : (s.view = .list ∧ s.cursor ≠ s.current) =
          (s'.view = .list ∧ s'.cursor ≠ s'.current) := by
        rw [hs.view, hs.cursor, hs.current]
      simp only [Session.act, select, hchoice]
      have hshown : Matches f { s with view := .main } { s' with view := .main } :=
        { hs with view := rfl }
      split
      · exact hshown.moveTo hm hs.cursor
      · exact ⟨hshown, rfl⟩
  | dismiss => exact ⟨{ hs with view := rfl }, rfl⟩
  | cursorUp =>
      simp only [Session.act, hlist]
      split
      · exact ⟨{ hs with cursor := congrArg (· - 1) hs.cursor }, rfl⟩
      · exact ⟨hs, rfl⟩
  | cursorDown =>
      have hdown : (s.view = .list ∧ s.cursor + 1 < s.catalog.size) =
          (s'.view = .list ∧ s'.cursor + 1 < s'.catalog.size) := by
        rw [hs.view, hs.cursor, hsize]
      simp only [Session.act, hdown]
      split
      · exact ⟨{ hs with cursor := congrArg (· + 1) hs.cursor }, rfl⟩
      · exact ⟨hs, rfl⟩

/-- In matching sessions the end of a run asks for the same, on machines that save alike. -/
theorem Matches.finishRun (hs : Matches f s s') (hm : SavesAlike f store other h k)
    (name : String) (v : Verdict) :
    AnswersAlike f (finishRun store name v s h).1 (finishRun other name v s' k).1 := by
  have hcatalog := hs.catalog.recordAttempt hm name v.success
  have hpending : (s.rerunPending = true) = (s'.rerunPending = true) := by rw [hs.rerunPending]
  simp only [Session.finishRun, hpending]
  split
  · refine Matches.beginRun ?_
    exact { hs with catalog := hcatalog, running := rfl, latest := rfl, rerunPending := rfl }
  · exact ⟨{ hs with catalog := hcatalog, running := rfl, latest := rfl }, rfl⟩

/-- Matching sessions that hear the same message match afterwards, and ask for the same. -/
theorem Matches.update (hs : Matches f s s') (hm : SavesAlike f store other h k) (m : Message) :
    AnswersAlike f (update store m s h).1 (update other m s' k).1 := by
  cases m with
  | key a => exact hs.act hm a
  | runFinished name v => exact hs.finishRun hm name v
  | fileChanged e =>
      simp only [Session.update]
      rw [hs.accepts e]
      split
      · have hrun := hs.scheduleRun
        exact ⟨hrun.session, by rw [List.map_append, List.map_append, hrun.effects]⟩
      · exact ⟨hs, rfl⟩
  | tick => exact ⟨{ hs with }, rfl⟩
  | runStarted name => exact ⟨{ hs with running := rfl }, rfl⟩
  | watchError error => exact ⟨{ hs with }, rfl⟩
  | watcherClosed => exact ⟨{ hs with }, rfl⟩

/--
A message that only informs asks for nothing, and changes nothing but what is shown; the news of a
begun run is kept besides.
-/
theorem update_of_informs (store : ProgressStore σ) (s : Session) (h : σ) {m : Message}
    (hm : m.informs = true) :
    ∃ status running watchError spinner,
      (Session.update store m s h).1 = ({ s with status, running, watchError, spinner }, []) ∧
      ((∀ name, m ≠ .runStarted name) → running = s.running) := by
  cases m with
  | tick => exact ⟨s.status, s.running, s.watchError, _, rfl, fun _ => rfl⟩
  | runStarted name =>
      exact ⟨_, _, s.watchError, s.spinner, rfl, fun hother => absurd rfl (hother name)⟩
  | watchError error => exact ⟨s.status, s.running, _, s.spinner, rfl, fun _ => rfl⟩
  | watcherClosed => exact ⟨s.status, s.running, _, s.spinner, rfl, fun _ => rfl⟩
  | key a => cases hm
  | runFinished name v => cases hm
  | fileChanged e => cases hm

/-- A message that only informs, and does not change which run is in flight, can be missed. -/
theorem Matches.of_informs {m : Message} (hs : Matches f s s') (hm : m.informs = true)
    (hrunning : (Session.update store m s h).1.1.running = s.running) :
    AnswersAlike f (Session.update store m s h).1 (s', []) := by
  obtain ⟨status, running, watchError, spinner, hupdate, -⟩ := update_of_informs store s h hm
  rw [hupdate] at hrunning ⊢
  exact ⟨{ hs with running := hrunning.trans hs.running }, rfl⟩

end Session

/-! ## Leaving messages out -/

namespace EventLoop

open Session

variable {σ τ : Type} {store : ProgressStore σ} {other : ProgressStore τ} {c : Catalog}
  {extension : String} {turns : List Turn} {l : EventLoop}

/-- What a session has asked for from its start through its turns, the last one first. -/
def asked (c : Catalog) (extension : String) : List Turn → List Effect
  | [] => (ofCatalog c extension).start.2
  | t :: turns => asked c extension turns ++ t.effects

/--
A session from its start through messages, each on a machine in some state, the last one first, and
what it has asked for.
-/
def hear (other : ProgressStore τ) (c : Catalog) (extension : String) :
    List (Message × τ) → Session × List Effect
  | [] => (ofCatalog c extension).start
  | (m, k) :: earlier =>
      let before := hear other c extension earlier
      let after := (update other m before.1 k).1
      (after.1, before.2 ++ after.2)

/--
The messages of turns, without some that only inform.  What is left is heard on machines of another
kind, which save alike.
-/
inductive Thinned (f : Timestamp → α) (store : ProgressStore σ) (other : ProgressStore τ) :
    List Turn → List (Message × τ) → Prop where
  | nil : Thinned f store other [] []
  | leave {turns : List Turn} {left : List (Message × τ)} (t : Turn) :
      t.message.informs = true → Thinned f store other turns left →
      Thinned f store other (t :: turns) left
  | keep {turns : List Turn} {left : List (Message × τ)} {t : Turn} {h : σ} {k : τ} :
      t = turn store t.before t.message h → SavesAlike f store other h k →
      Thinned f store other turns left →
      Thinned f store other (t :: turns) ((t.message, k) :: left)

/-- A message that only informs does not change which run is in flight. -/
theorem Tracks.running_of_informs {l l' : EventLoop} {t : Turn} (hl : l.Tracks)
    (ht : Step store l t l') (hm : t.message.informs = true) :
    l'.session.running = l.session.running := by
  cases ht with
  | @take m left h hdue =>
      by_cases hbegun : ∃ name, m = .runStarted name
      · obtain ⟨name, rfl⟩ := hbegun
        exact hl.running_of_begun (.take h hdue) rfl
      · obtain ⟨status, running, watchError, spinner, hupdate, hkept⟩ :=
          update_of_informs store l.session h (m := m) hm
        change (update store m l.session h).1.1.running = l.session.running
        rw [hupdate]
        exact hkept fun name hname => hbegun ⟨name, hname⟩

/-- A loop and what is left of its messages lead to matching sessions, by induction on the turns. -/
theorem Reached.answersAlike {left : List (Message × τ)} (hl : Reached store c extension turns l)
    (hleft : Thinned f store other turns left) :
    AnswersAlike f (l.session, asked c extension turns) (hear other c extension left) := by
  induction hl generalizing left with
  | start =>
      cases hleft
      exact ⟨.refl _, rfl⟩
  | @step turns l l' t hbefore ht ih =>
      cases hleft with
      | leave _ hm hrest =>
          have hsame := ih hrest
          have hrunning := hbefore.tracks.running_of_informs ht hm
          cases ht with
          | @take m left h hdue =>
              have hmissed := hsame.session.of_informs hm hrunning
              refine ⟨hmissed.session, ?_⟩
              have hnone : (turn store l.session m h).effects.map (Effect.seen f) = [] :=
                hmissed.effects
              rw [asked, List.map_append, hnone, List.append_nil]
              exact hsame.effects
      | @keep _ _ _ h' k hturn hm hrest =>
          have hsame := ih hrest
          cases ht with
          | @take m left h hdue =>
              have hheard := hsame.session.update hm m
              -- The machine of the turn and the one that the kept message names act alike here.
              have hafter : (turn store l.session m h).after = (update store m l.session h').1.1 :=
                congrArg Turn.after hturn
              have hasked : (turn store l.session m h).effects = (update store m l.session h').1.2 :=
                congrArg Turn.effects hturn
              refine ⟨?_, ?_⟩
              · rw [hafter]
                exact hheard.session
              · rw [asked, hasked, List.map_append, hsame.effects, hheard.effects,
                  ← List.map_append]
                rfl

/--
Leaving out any of the ticks, the watcher's complaints and the news of begun runs changes nothing
that a session asks for, and at the end of the turns it differs in texts and the spinner only.
-/
theorem informing_does_not_schedule {left : List (Message × τ)}
    (hl : Reached store c extension turns l) (hleft : Thinned f store other turns left) :
    (hear other c extension left).2.map (Effect.seen f) =
      (asked c extension turns).map (Effect.seen f) ∧
    Catalog.Alike f l.session.catalog (hear other c extension left).1.catalog ∧
    (hear other c extension left).1.current = l.session.current ∧
    (hear other c extension left).1.view = l.session.view ∧
    (hear other c extension left).1.cursor = l.session.cursor ∧
    (hear other c extension left).1.running = l.session.running ∧
    (hear other c extension left).1.rerunPending = l.session.rerunPending ∧
    (hear other c extension left).1.latest = l.session.latest ∧
    (hear other c extension left).1.quitting = l.session.quitting := by
  have hsame := hl.answersAlike hleft
  have hs := hsame.session
  exact ⟨hsame.effects.symm, hs.catalog, hs.current.symm, hs.view.symm, hs.cursor.symm,
    hs.running.symm, hs.rerunPending.symm, hs.latest.symm, hs.quitting.symm⟩

/-- If all times are told apart, the same is asked for and the same is kept. -/
theorem Reached.hear_eq_of_injective {left : List (Message × τ)} (hf : Function.Injective f)
    (hl : Reached store c extension turns l) (hleft : Thinned f store other turns left) :
    (hear other c extension left).2 = asked c extension turns ∧
      (hear other c extension left).1.catalog = l.session.catalog := by
  have hsame := hl.answersAlike hleft
  have heffects := List.map_injective_iff.2 (Effect.seen_injective hf) hsame.effects
  exact ⟨heffects.symm, (hsame.session.catalog.eq hf).symm⟩

/-- A store that takes everything and keeps nothing, at another time of day. -/
def atNoon : ProgressStore Unit where
  now := fun _ => { (default : Timestamp) with hour := 12 }
  save := fun _ => pure ()

/--
A run fails and the learner asks for another one.  The same happens, but for the time of the attempt,
if nothing is heard of the begun run and the tick.
-/
theorem informing_does_not_schedule_again :
    ∃ (turns : List Turn) (l : EventLoop) (left : List (Message × Unit)),
      Reached forgetful oneExercise "sh" turns l ∧
      Thinned (fun _ => ()) forgetful atNoon turns left ∧
      turns.length = 4 ∧ left.length = 2 ∧
      (hear atNoon oneExercise "sh" left).2.map (Effect.seen fun _ => ()) =
        (asked oneExercise "sh" turns).map (Effect.seen fun _ => ()) ∧
      (hear atNoon oneExercise "sh" left).2 ≠ asked oneExercise "sh" turns ∧
      (hear atNoon oneExercise "sh" left).1.running = l.session.running := by
  let hello := oneExercise.exercises[0]
  let failed := Verdict.start "hello"
  let begun := turn forgetful (start oneExercise "sh").session (.runStarted "hello") ()
  let ticked := turn forgetful begun.after .tick ()
  let ended := turn forgetful ticked.after (.runFinished "hello" failed) ()
  let again := turn forgetful ended.after (.key .run) ()
  have hended : Reached forgetful oneExercise "sh" [ended, ticked, begun] _ :=
    .step (.step (.step .start
      (.take () (.begun [] [] hello)))
      (.take () (.other (m := .tick) rfl)))
      (.take () (.ended [] [] hello failed))
  have hl : Reached forgetful oneExercise "sh" [again, ended, ticked, begun] _ :=
    .step hended (.take () (.other (m := .key .run) rfl))
  have hsaves : SavesAlike (fun _ => ()) forgetful atNoon () () := ⟨rfl, fun _ _ _ => rfl⟩
  have hrest : Thinned (fun _ => ()) forgetful atNoon [ticked, begun] [] :=
    .leave ticked rfl (.leave begun rfl .nil)
  have hleft : Thinned (fun _ => ()) forgetful atNoon [again, ended, ticked, begun] _ :=
    .keep (h := ()) rfl hsaves (.keep (h := ()) rfl hsaves hrest)
  have hsame := informing_does_not_schedule hl hleft
  exact ⟨_, _, _, hl, hleft, rfl, rfl, hsame.1, by decide +kernel, hsame.2.2.2.2.2.1⟩

end EventLoop
end Trainer
