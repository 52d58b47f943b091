import Mathlib
import Trainer.Proofs.Session.Position

/-!
# The event loop

The loop hands a session one message at a time.  Keys, ticks and the watcher's messages come in any
order and number; of every run that the session asks for comes, at any later time, the message that
it has begun, and after that the message that it is over.  `Step` is one turn of the loop and
`Reached` its states, with the turns that led there.  The answers of the machine that keeps the
progress are arbitrary in every turn.

The main result is `one_run_in_flight`: at most one run is asked for and not over, and `running`
names its exercise.  It rests on the invariant `Tracks`, which every turn keeps (`Tracks.step`).
-/

namespace Trainer

open Session

/-- A run that was asked for and is not over. -/
structure Flight where
  exercise : Exercise
  /-- Whether the session has been told that the run has begun. -/
  told : Bool
deriving DecidableEq

/-- A session and the runs it has asked for that are not over. -/
structure EventLoop where
  session : Session
  flights : List Flight

/-- A message, the session before and after it, and what the session asks for. -/
structure Turn where
  before : Session
  message : Message
  after : Session
  effects : List Effect

namespace EventLoop

/-! ## Steps -/

/-- Runs that the session has just asked for. -/
def launch (es : List Exercise) : List Flight :=
  es.map fun e => ⟨e, false⟩

def start (c : Catalog) (extension : String) : EventLoop where
  session := (ofCatalog c extension).start.1
  flights := launch (runs (ofCatalog c extension).start.2)

/-- Which message may come while some runs are not over, and what is left of them after it. -/
inductive Due : List Flight → Message → List Flight → Prop where
  | other {flights : List Flight} {m : Message} : m.ofRun = false → Due flights m flights
  | begun (before after : List Flight) (e : Exercise) :
      Due (before ++ ⟨e, false⟩ :: after) (.runStarted e.name) (before ++ ⟨e, true⟩ :: after)
  | ended (before after : List Flight) (e : Exercise) (v : Verdict) :
      Due (before ++ ⟨e, true⟩ :: after) (.runFinished e.name v) (before ++ after)

variable {σ : Type}

/-- The turn of a message in a session, on a machine in any state. -/
def turn (store : ProgressStore σ) (s : Session) (m : Message) (h : σ) : Turn where
  before := s
  message := m
  after := (update store m s h).1.1
  effects := (update store m s h).1.2

/-- One turn of the loop. -/
inductive Step (store : ProgressStore σ) : EventLoop → Turn → EventLoop → Prop where
  | take {l : EventLoop} {m : Message} {left : List Flight} (h : σ) : Due l.flights m left →
      Step store l (turn store l.session m h)
        ⟨(turn store l.session m h).after, left ++ launch (runs (turn store l.session m h).effects)⟩

/-- The states of the loop, each with the turns that led to it, the last one first. -/
inductive Reached (store : ProgressStore σ) (c : Catalog) (extension : String) :
    List Turn → EventLoop → Prop where
  | start : Reached store c extension [] (start c extension)
  | step {turns : List Turn} {l l' : EventLoop} {t : Turn} :
      Reached store c extension turns l → Step store l t l' →
      Reached store c extension (t :: turns) l'

/-- The sessions of the loop are sessions of its catalog. -/
theorem Reached.reachable {store : ProgressStore σ} {c : Catalog} {extension : String}
    {turns : List Turn} {l : EventLoop} (hl : Reached store c extension turns l) :
    Reachable store c extension l.session := by
  induction hl with
  | start => exact .start .new
  | step _ ht ih =>
      cases ht with
      | take h hdue => exact .message _ h ih

/-! ## The run in flight -/

/-- The runs that are not over are the one that the session takes for the run in flight. -/
def Tracks (l : EventLoop) : Prop :=
  l.flights.map (·.exercise.name) = l.session.running.toList

@[simp] theorem names_launch (es : List Exercise) :
    (launch es).map (·.exercise.name) = es.map (·.name) := by
  simp [launch]

theorem toList_eq_append_cons {α : Type} {o : Option α} {before after : List α} {a : α}
    (h : before ++ a :: after = o.toList) : before = [] ∧ after = [] ∧ o = some a := by
  cases o with
  | none => simp at h
  | some b =>
      have hlen := congrArg List.length h
      simp only [List.length_append, List.length_cons, Option.length_toList, Option.isSome_some,
        ↓reduceIte] at hlen
      have hbefore : before = [] := List.eq_nil_of_length_eq_zero (by omega)
      have hafter : after = [] := List.eq_nil_of_length_eq_zero (by omega)
      subst hbefore hafter
      simpa using h.symm

/-- If one of the runs that are not over is known, there is no other one. -/
theorem Tracks.split {l : EventLoop} (hl : l.Tracks) {before after : List Flight} {f : Flight}
    (hf : l.flights = before ++ f :: after) :
    before = [] ∧ after = [] ∧ l.session.running = some f.exercise.name := by
  rw [Tracks, hf, List.map_append, List.map_cons] at hl
  obtain ⟨hbefore, hafter, hrun⟩ := toList_eq_append_cons hl
  exact ⟨List.map_eq_nil_iff.1 hbefore, List.map_eq_nil_iff.1 hafter, hrun⟩

theorem Tracks.flights_eq_nil {l : EventLoop} (hl : l.Tracks) (hrun : l.session.running = none) :
    l.flights = [] := by
  rw [Tracks, hrun] at hl
  exact List.map_eq_nil_iff.1 hl

theorem Tracks.length_le {l : EventLoop} (hl : l.Tracks) : l.flights.length ≤ 1 := by
  have hlen := congrArg List.length hl
  rw [List.length_map] at hlen
  rw [hlen]
  cases l.session.running <;> simp

/-- The session knows of just the run that is not over. -/
theorem Tracks.running_iff {l : EventLoop} (hl : l.Tracks) (name : String) :
    l.session.running = some name ↔ ∃ f ∈ l.flights, f.exercise.name = name := by
  rw [← Option.mem_toList, ← hl, List.mem_map]

theorem tracks_start (c : Catalog) (extension : String) : (start c extension).Tracks := rfl

/-- A turn keeps the invariant, and the session asks for a run only when no other one is left. -/
theorem Tracks.take {l : EventLoop} {m : Message} {left : List Flight} {s' : Session}
    {es : List Exercise} (hl : l.Tracks) (hdue : Due l.flights m left)
    (hout : Outcome l.session m s' es) :
    (EventLoop.mk s' (left ++ launch es)).Tracks ∧ (es ≠ [] → left = []) := by
  obtain ⟨s, flights⟩ := l
  cases hdue with
  | other hm =>
      -- The message is no run's, so the cases that end or begin one cannot arise.
      cases hout with
      | quiet _ _ hrun =>
          refine ⟨?_, fun hes => absurd rfl hes⟩
          simpa [Tracks, launch, hrun] using hl
      | remembered _ _ _ hrun =>
          refine ⟨?_, fun hes => absurd rfl hes⟩
          simpa [Tracks, launch, hrun] using hl
      | launched _ hidle hrun =>
          have hnil : flights = [] := hl.flights_eq_nil hidle
          refine ⟨?_, fun _ => hnil⟩
          simp [Tracks, hnil, hrun]
      | told hm' => rw [hm'] at hm; cases hm
      | ended hm' => rw [hm'] at hm; cases hm
      | again hm' => rw [hm'] at hm; cases hm
  | begun before after e =>
      -- The run that has begun is the only one, so its name is the one that is kept.
      obtain ⟨rfl, rfl, -⟩ := hl.split rfl
      cases hout with
      | told hm' hrun =>
          cases hm'
          refine ⟨?_, fun hes => absurd rfl hes⟩
          simp [Tracks, launch, hrun]
      | quiet hm' => cases hm'
      | remembered hm' => cases hm'
      | launched hm' => cases hm'
      | ended hm' => cases hm'
      | again hm' => cases hm'
  | ended before after e v =>
      -- The run that is over was the only one, so nothing is left beside the one it may start.
      obtain ⟨rfl, rfl, -⟩ := hl.split rfl
      refine ⟨?_, fun _ => rfl⟩
      cases hout with
      | ended _ _ hrun => simp [Tracks, launch, hrun]
      | again _ _ hrun => simp [Tracks, hrun]
      | quiet hm' => cases hm'
      | told hm' => cases hm'
      | remembered hm' => cases hm'
      | launched hm' => cases hm'

variable {store : ProgressStore σ} {c : Catalog} {extension : String}

/-- Whatever step the loop takes, the session knows what is running. -/
theorem Tracks.step {l l' : EventLoop} {t : Turn} (hl : l.Tracks) (ht : Step store l t l') :
    l'.Tracks := by
  cases ht with
  | take h hdue => exact (hl.take hdue (update_outcome _)).1

/--
The session knows what is running in every loop that can be reached, by induction on the turns.
-/
theorem Reached.tracks {turns : List Turn} {l : EventLoop}
    (hl : Reached store c extension turns l) : l.Tracks := by
  induction hl with
  | start => exact tracks_start c extension
  | step _ ht ih => exact ih.step ht

/-- Being told that a run has begun does not change which run is in flight. -/
theorem Tracks.running_of_begun {l l' : EventLoop} {t : Turn} {name : String} (hl : l.Tracks)
    (ht : Step store l t l') (hm : t.message = .runStarted name) :
    l'.session.running = l.session.running := by
  cases ht with
  | take h hdue =>
      cases hm
      generalize hf : l.flights = flights at hdue
      cases hdue with
      | other hm => cases hm
      | begun before after e => exact (hl.split hf).2.2.symm

/--
At most one run is asked for and not over, and `running` names its exercise.  The message that a run
has begun does not change `running`, and a run is asked for only when no other one is left.
-/
theorem one_run_in_flight {turns : List Turn} {l : EventLoop}
    (hl : Reached store c extension turns l) :
    l.flights.length ≤ 1 ∧
    (∀ name, l.session.running = some name ↔ ∃ f ∈ l.flights, f.exercise.name = name) ∧
    (∀ t l' name, Step store l t l' → t.message = .runStarted name →
      l'.session.running = l.session.running) ∧
    (∀ m left h, Due l.flights m left → runs (turn store l.session m h).effects ≠ [] →
      left = [] ∧ ∃ e, runs (turn store l.session m h).effects = [e]) := by
  have htrack := hl.tracks
  refine ⟨htrack.length_le, htrack.running_iff, ?_, ?_⟩
  · intro t l' name ht hm
    exact htrack.running_of_begun ht hm
  · intro m left h hdue hruns
    obtain ⟨hnext, hleft⟩ := htrack.take hdue (update_outcome m)
    refine ⟨hleft hruns, List.length_eq_one_iff.1 ?_⟩
    -- The bound for the next state leaves room for one run only.
    have hpos := List.length_pos_iff.2 hruns
    have hle := hnext.length_le
    rw [hleft hruns, launch, List.nil_append, List.length_map] at hle
    exact Nat.le_antisymm hle hpos

/-- A catalog of one shell exercise. -/
def oneExercise : Catalog where
  exercises := [{ (default : Exercise) with name := "hello", sourcePath := ⟨"/e/hello.sh"⟩ }]
  progress := Progress.fresh
  progressFile := ⟨"/k/progress.toml"⟩

/-- A store that takes everything and keeps nothing. -/
def forgetful : ProgressStore Unit where
  now := fun _ => default
  save := fun _ => pure ()

theorem one_run_in_flight_begun :
    ∃ turns l, Reached forgetful oneExercise "sh" turns l ∧
      l.session.running = some "hello" ∧ l.flights.length ≤ 1 ∧
      ∃ f ∈ l.flights, f.exercise.name = "hello" := by
  have hl : Reached forgetful oneExercise "sh" _ _ :=
    .step .start (.take () (.begun [] [] oneExercise.exercises[0]))
  have hone := one_run_in_flight hl
  exact ⟨_, _, hl, rfl, hone.1, (hone.2.1 "hello").1 rfl⟩

end EventLoop
end Trainer
