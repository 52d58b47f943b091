import Mathlib
import Trainer.Proofs.Session.EventLoop

/-!
# Waiting for file events

A session does not listen to the watcher; it asks for one event at a time.  Every such effect starts
an awaiter, which takes one item off the watcher's queue and posts it as a message, or posts that
the watcher is closed when the queue has ended.  `AwaitLoop` is the loop with its awaiters, its
mailbox and the queue, and `AwaitLoop.Step` lets all of them go on in any order.  Keys, ticks, runs
and watch errors may be posted at any time.

The main result is `one_await_armed`: until the watcher is closed there is exactly one awaiter or
message of the watcher, whatever the session does with the messages.  So no event overtakes another,
and every event that was taken off the queue is heard.

## The argument

* A message of an event asks for the next one, once, and no other message does (`awaits_update`).
* So each step moves one token around and makes none (`Armed.step`): the awaiter hands it to its
  message, and the message hands it back when it is heard.
* With one token there is at most one event between queue and session, and the events stay in order.
-/

namespace Trainer

/-! ## What a message asks for -/

/-- How many events effects ask to wait for. -/
def Session.awaits (effects : List Effect) : Nat :=
  effects.count .awaitFileEvent

/-- The event that a message brings. -/
def Message.event? : Message → Option FileEvent
  | .fileChanged e => some e
  | _ => none

/-- Whether a message is the answer to a wait: an event, or that there are no more. -/
def Message.ofWatch : Message → Bool
  | .fileChanged _ => true
  | .watcherClosed => true
  | _ => false

namespace Session

variable {σ : Type} {store : ProgressStore σ} {s : Session} {h : σ}

@[simp] theorem awaits_nil : awaits [] = 0 := rfl

@[simp] theorem awaits_quit : awaits [.quit] = 0 := rfl

@[simp] theorem awaits_beginRun (s : Session) : awaits s.beginRun.2 = 0 := rfl

@[simp] theorem awaits_append_await (effects : List Effect) :
    awaits (effects ++ [.awaitFileEvent]) = awaits effects + 1 := by
  simp [awaits]

@[simp] theorem awaits_scheduleRun (s : Session) : awaits s.scheduleRun.2 = 0 := by
  unfold scheduleRun
  split
  · rfl
  · rfl

theorem awaits_moveTo (i : Nat) : awaits (moveTo store i s h).1.2 = 0 := by
  simp only [moveTo]
  split
  · exact awaits_scheduleRun _
  · exact awaits_scheduleRun _

theorem awaits_act (a : Action) : awaits (act store a s h).1.2 = 0 := by
  -- The keys that move the session may start a run; the others ask for nothing, or to quit.
  cases a with
  | next =>
      simp only [act, goNext]
      split
      · split
        · exact awaits_moveTo _
        · rfl
      · rfl
  | previous =>
      simp only [act, goBack]
      split
      · split
        · exact awaits_moveTo _
        · rfl
      · rfl
  | select =>
      simp only [act, select]
      split
      · exact awaits_moveTo _
      · rfl
  | run =>
      simp only [act]
      split
      · rfl
      · rfl
  | toggleList =>
      simp only [act]
      split
      · rfl
      · rfl
  | cursorUp =>
      simp only [act]
      split
      · rfl
      · rfl
  | cursorDown =>
      simp only [act]
      split
      · rfl
      · rfl
  | quit => rfl
  | toggleHint => rfl
  | dismiss => rfl

/-- An event asks for the next one whether or not it is accepted, and no other message does. -/
theorem awaits_update (m : Message) :
    awaits (update store m s h).1.2 = m.event?.toList.length := by
  cases m with
  | key a => exact awaits_act a
  | runFinished name v =>
      simp only [update, finishRun]
      split
      · rfl
      · rfl
  | fileChanged e =>
      simp only [update]
      split
      · rw [awaits_append_await, awaits_scheduleRun]
        rfl
      · rfl
  | tick => rfl
  | runStarted name => rfl
  | watchError error => rfl
  | watcherClosed => rfl

end Session

/-! ## The loop -/

/-- Where a wait for the next event is. -/
inductive Awaiter where
  | waiting
  /-- An item was taken off the queue and is not posted yet; none if the queue has ended. -/
  | holding (item : Option FileEvent)
deriving DecidableEq

namespace Awaiter

/-- The event that an awaiter has in hand. -/
def event? : Awaiter → Option FileEvent
  | .waiting => none
  | .holding item => item

/-- The message that an item is posted as. -/
def post : Option FileEvent → Message
  | some e => .fileChanged e
  | none => .watcherClosed

end Awaiter

/-- A session, the watcher's queue, and what is on its way from one to the other. -/
structure AwaitLoop where
  session : Session
  /-- The events that nobody has taken yet. -/
  queue : List FileEvent
  /-- Whether no event will come any more. -/
  ended : Bool
  /-- The awaiters that have not posted their message yet. -/
  awaiters : List Awaiter
  /-- The messages that were posted and not heard yet. -/
  mailbox : List Message
  /-- All events that have come. -/
  arrived : List FileEvent
  /-- The messages that the session has heard. -/
  heard : List Message

namespace AwaitLoop

open Session

variable {σ : Type}

/-- The awaiters that effects start. -/
def armed (effects : List Effect) : List Awaiter :=
  List.replicate (awaits effects) .waiting

def start (c : Catalog) (extension : String) : AwaitLoop where
  session := (ofCatalog c extension).start.1
  queue := []
  ended := false
  awaiters := armed (ofCatalog c extension).start.2
  mailbox := []
  arrived := []
  heard := []

/-- One thing that happens in the loop. -/
inductive Step (store : ProgressStore σ) : AwaitLoop → AwaitLoop → Prop where
  /-- The watcher queues an event. -/
  | arrive {l : AwaitLoop} (e : FileEvent) : l.ended = false →
      Step store l { l with queue := l.queue ++ [e], arrived := l.arrived ++ [e] }
  /-- The watcher is gone; what it has queued can still be taken. -/
  | stop {l : AwaitLoop} : Step store l { l with ended := true }
  /-- An awaiter takes the first event. -/
  | take {l : AwaitLoop} (before after : List Awaiter) {e : FileEvent} {rest : List FileEvent} :
      l.awaiters = before ++ .waiting :: after → l.queue = e :: rest →
      Step store l { l with
        queue := rest, awaiters := before ++ .holding (some e) :: after }
  /-- An awaiter finds that the queue has ended. -/
  | drained {l : AwaitLoop} (before after : List Awaiter) :
      l.awaiters = before ++ .waiting :: after → l.queue = [] → l.ended = true →
      Step store l { l with awaiters := before ++ .holding none :: after }
  /-- An awaiter posts what it holds, and is done. -/
  | post {l : AwaitLoop} (before after : List Awaiter) (item : Option FileEvent) :
      l.awaiters = before ++ .holding item :: after →
      Step store l { l with
        awaiters := before ++ after, mailbox := l.mailbox ++ [Awaiter.post item] }
  /-- Anything else posts a message. -/
  | other {l : AwaitLoop} (m : Message) : m.ofWatch = false →
      Step store l { l with mailbox := l.mailbox ++ [m] }
  /-- The session hears the first message, on a machine in any state. -/
  | hear {l : AwaitLoop} {m : Message} {rest : List Message} (h : σ) : l.mailbox = m :: rest →
      Step store l { l with
        session := (update store m l.session h).1.1
        awaiters := l.awaiters ++ armed (update store m l.session h).1.2
        mailbox := rest
        heard := l.heard ++ [m] }

inductive Reached (store : ProgressStore σ) (c : Catalog) (extension : String) :
    AwaitLoop → Prop where
  | start : Reached store c extension (start c extension)
  | step {l l' : AwaitLoop} : Reached store c extension l → Step store l l' →
      Reached store c extension l'

/-! ## One token -/

/-- The awaiters and the answers to them that are not heard. -/
def tokens (l : AwaitLoop) : Nat :=
  l.awaiters.length + l.mailbox.countP Message.ofWatch

/-- The events that were taken off the queue and not heard, in the order in which they will be. -/
def taken (l : AwaitLoop) : List FileEvent :=
  l.mailbox.filterMap Message.event? ++ l.awaiters.filterMap Awaiter.event?

/-- The events that the session has heard of. -/
def heardEvents (l : AwaitLoop) : List FileEvent :=
  l.heard.filterMap Message.event?

/-- Somebody knows that the queue has ended. -/
def Over (l : AwaitLoop) : Prop :=
  .watcherClosed ∈ l.heard ∨ .watcherClosed ∈ l.mailbox ∨ .holding none ∈ l.awaiters

/-- There is one token until the session hears that the watcher is closed. -/
structure Armed (l : AwaitLoop) : Prop where
  tokens : l.tokens = if .watcherClosed ∈ l.heard then 0 else 1
  inOrder : l.arrived = l.heardEvents ++ l.taken ++ l.queue
  drained : l.Over → l.ended = true ∧ l.queue = []

theorem armed_start (c : Catalog) (extension : String) : (start c extension).Armed where
  tokens := rfl
  inOrder := rfl
  drained := by
    rintro (hheard | hposted | hheld)
    · cases hheard
    · cases hposted
    · simp [start, armed] at hheld

/-- The awaiter that has the token is the only one. -/
theorem Armed.sole {l : AwaitLoop} {before after : List Awaiter} {a : Awaiter} (hl : l.Armed)
    (ha : l.awaiters = before ++ a :: after) : before = [] ∧ after = [] := by
  have hone : l.tokens ≤ 1 := by
    rw [hl.tokens]
    split
    · exact Nat.zero_le 1
    · exact Nat.le_refl 1
  rw [AwaitLoop.tokens, ha, List.length_append, List.length_cons] at hone
  constructor
  · exact List.eq_nil_of_length_eq_zero (by omega)
  · exact List.eq_nil_of_length_eq_zero (by omega)

/-- An event comes from the watcher. -/
theorem ofWatch_of_event? {m : Message} (hm : m.ofWatch = false) : m.event? = none := by
  cases m with
  | fileChanged e => cases hm
  | key a => rfl
  | tick => rfl
  | runStarted name => rfl
  | runFinished name v => rfl
  | watchError error => rfl
  | watcherClosed => rfl

@[simp] theorem ofWatch_post (item : Option FileEvent) : (Awaiter.post item).ofWatch = true := by
  cases item with
  | none => rfl
  | some e => rfl

@[simp] theorem event?_post (item : Option FileEvent) : (Awaiter.post item).event? = item := by
  cases item with
  | none => rfl
  | some e => rfl

theorem post_eq_closed {item : Option FileEvent} (h : Awaiter.post item = .watcherClosed) :
    item = none := by
  cases item with
  | none => rfl
  | some e => cases h

@[simp] theorem events_armed (effects : List Effect) :
    (armed effects).filterMap Awaiter.event? = [] := by
  simp [armed, Awaiter.event?]

variable {store : ProgressStore σ} {c : Catalog} {extension : String} {l l' : AwaitLoop}

/-- The awaiter with the token takes an event off the queue. -/
theorem Armed.take {before after : List Awaiter} {e : FileEvent} {rest : List FileEvent}
    (hl : l.Armed) (ha : l.awaiters = before ++ .waiting :: after) (hq : l.queue = e :: rest) :
    Armed { l with queue := rest, awaiters := before ++ .holding (some e) :: after } := by
  obtain ⟨rfl, rfl⟩ := hl.sole ha
  refine ⟨?_, ?_, ?_⟩
  · have htokens := hl.tokens
    rw [AwaitLoop.tokens, ha] at htokens
    exact htokens
  · have horder := hl.inOrder
    simp only [taken, ha, hq] at horder ⊢
    simpa [heardEvents, List.filterMap_cons, Awaiter.event?] using horder
  · intro hover
    -- An event was in the queue, so nobody knew that the queue has ended.
    have hbefore : l.Over := by
      rcases hover with hheard | hposted | hheld
      · exact .inl hheard
      · exact .inr (.inl hposted)
      · simp at hheld
    have hempty : l.queue = [] := (hl.drained hbefore).2
    rw [hq] at hempty
    cases hempty

/-- The awaiter with the token learns that the queue has ended. -/
theorem Armed.drain {before after : List Awaiter} (hl : l.Armed)
    (ha : l.awaiters = before ++ .waiting :: after) (hq : l.queue = [])
    (hended : l.ended = true) :
    Armed { l with awaiters := before ++ .holding none :: after } := by
  obtain ⟨rfl, rfl⟩ := hl.sole ha
  refine ⟨?_, ?_, fun _ => ⟨hended, hq⟩⟩
  · have htokens := hl.tokens
    rw [AwaitLoop.tokens, ha] at htokens
    exact htokens
  · have horder := hl.inOrder
    simp only [taken, ha] at horder ⊢
    simpa [heardEvents, List.filterMap_cons, Awaiter.event?] using horder

/-- The awaiter with the token hands it to its message. -/
theorem Armed.post {before after : List Awaiter} {item : Option FileEvent} (hl : l.Armed)
    (ha : l.awaiters = before ++ .holding item :: after) : Armed { l with
      awaiters := before ++ after, mailbox := l.mailbox ++ [Awaiter.post item] } := by
  obtain ⟨rfl, rfl⟩ := hl.sole ha
  refine ⟨?_, ?_, ?_⟩
  · have htokens := hl.tokens
    simp only [AwaitLoop.tokens, ha] at htokens ⊢
    simpa [Nat.add_comm] using htokens
  · have horder := hl.inOrder
    simp only [taken, ha] at horder ⊢
    simpa [heardEvents, List.filterMap_cons, Awaiter.event?] using horder
  · rintro (hheard | hposted | hheld)
    · exact hl.drained (.inl hheard)
    · rcases List.mem_append.1 hposted with hbefore | hnow
      · exact hl.drained (.inr (.inl hbefore))
      · have hitem : item = none := post_eq_closed (List.mem_singleton.1 hnow).symm
        refine hl.drained (.inr (.inr ?_))
        simp [ha, hitem]
    · cases hheld

/-- Hearing a message takes its token, and an event gives one to the next awaiter. -/
theorem Armed.hear {m : Message} {rest : List Message} (hl : l.Armed) (h : σ)
    (hm : l.mailbox = m :: rest) : Armed { l with
      session := (update store m l.session h).1.1
      awaiters := l.awaiters ++ armed (update store m l.session h).1.2
      mailbox := rest
      heard := l.heard ++ [m] } := by
  refine ⟨?_, ?_, ?_⟩
  · have htokens := hl.tokens
    simp only [AwaitLoop.tokens, hm, List.countP_cons] at htokens
    simp only [AwaitLoop.tokens, List.length_append, armed, List.length_replicate, awaits_update,
      List.mem_append, List.mem_singleton]
    cases m with
    | fileChanged e =>
        simpa [Message.ofWatch, Message.event?, Nat.add_assoc, Nat.add_comm 1] using htokens
    | watcherClosed =>
        -- The token was in this message, and now there is none.
        have hspent : l.awaiters.length + rest.countP Message.ofWatch + 1 ≤ 1 := by
          simp only [Message.ofWatch, if_true] at htokens
          split at htokens
          · omega
          · omega
        simpa [Message.event?] using hspent
    | key a => simpa [Message.ofWatch, Message.event?] using htokens
    | tick => simpa [Message.ofWatch, Message.event?] using htokens
    | runStarted name => simpa [Message.ofWatch, Message.event?] using htokens
    | runFinished name v => simpa [Message.ofWatch, Message.event?] using htokens
    | watchError error => simpa [Message.ofWatch, Message.event?] using htokens
  · have horder := hl.inOrder
    simp only [heardEvents, taken, hm] at horder ⊢
    cases hevent : m.event? with
    | none => simpa [hevent] using horder
    | some e => simpa [hevent] using horder
  · rintro (hheard | hposted | hheld)
    · rcases List.mem_append.1 hheard with hbefore | hnow
      · exact hl.drained (.inl hbefore)
      · refine hl.drained (.inr (.inl ?_))
        rw [hm, List.mem_singleton.1 hnow]
        exact List.mem_cons_self
    · exact hl.drained (.inr (.inl (hm ▸ List.mem_cons_of_mem m hposted)))
    · rcases List.mem_append.1 hheld with hbefore | hnew
      · exact hl.drained (.inr (.inr hbefore))
      · simp [armed] at hnew

/-- Whatever step the loop takes, one await stays armed. -/
theorem Armed.step (hl : l.Armed) (ht : Step store l l') : l'.Armed := by
  cases ht with
  | arrive e hopen =>
      refine ⟨hl.tokens, ?_, fun hover => ?_⟩
      · change l.arrived ++ [e] = l.heardEvents ++ l.taken ++ (l.queue ++ [e])
        rw [hl.inOrder, List.append_assoc]
      · -- The watcher is not gone, so nobody knows that it is.
        have hended : l.ended = true := (hl.drained hover).1
        rw [hopen] at hended
        cases hended
  | stop => exact ⟨hl.tokens, hl.inOrder, fun hover => ⟨rfl, (hl.drained hover).2⟩⟩
  | take before after ha hq => exact hl.take ha hq
  | drained before after ha hq hended => exact hl.drain ha hq hended
  | post before after item ha => exact hl.post ha
  | other m hm =>
      refine ⟨?_, ?_, ?_⟩
      · have htokens := hl.tokens
        simp only [AwaitLoop.tokens] at htokens ⊢
        simpa [hm] using htokens
      · have horder := hl.inOrder
        simp only [taken] at horder ⊢
        simpa [heardEvents, ofWatch_of_event? hm] using horder
      · rintro (hheard | hposted | hheld)
        · exact hl.drained (.inl hheard)
        · rcases List.mem_append.1 hposted with hbefore | hnow
          · exact hl.drained (.inr (.inl hbefore))
          · rw [← List.mem_singleton.1 hnow] at hm
            cases hm
        · exact hl.drained (.inr (.inr hheld))
  | hear h hm => exact hl.hear h hm

/-! ## Every state of the loop -/

/-- One await is armed in every loop that can be reached, by induction on its steps. -/
theorem Reached.armed (hl : Reached store c extension l) : l.Armed := by
  induction hl with
  | start => exact armed_start c extension
  | step _ ht ih => exact ih.step ht

/-- Only a token can carry an event. -/
theorem length_taken_le (l : AwaitLoop) : l.taken.length ≤ l.tokens := by
  have hmailbox : (l.mailbox.filterMap Message.event?).length ≤
      l.mailbox.countP Message.ofWatch := by
    rw [List.length_filterMap_eq_countP]
    refine List.countP_mono_left fun m _ hm => ?_
    by_contra hno
    rw [ofWatch_of_event? (by simpa using hno)] at hm
    cases hm
  have hawaiters : (l.awaiters.filterMap Awaiter.event?).length ≤ l.awaiters.length :=
    List.length_filterMap_le _ _
  rw [taken, List.length_append, AwaitLoop.tokens]
  omega

/--
Until the session has heard that the watcher is closed, there is exactly one awaiter or message of
the watcher, and none afterwards.  Events are heard in the order of the queue and one at a time, and
none is skipped: what has come is what was heard, at most one event on its way, and what is still in
the queue.  When the watcher is closed, everything that has come was heard.
-/
theorem one_await_armed (hl : Reached store c extension l) :
    l.awaiters.length + l.mailbox.countP Message.ofWatch =
      (if .watcherClosed ∈ l.heard then 0 else 1) ∧
    (l.arrived = l.heardEvents ++ l.taken ++ l.queue ∧ l.taken.length ≤ 1) ∧
    (.watcherClosed ∈ l.heard → l.ended = true ∧ l.heardEvents = l.arrived) ∧
    ∀ (m : Message) (h : σ), awaits (update store m l.session h).1.2 =
      if m.event?.isSome then 1 else 0 := by
  have harmed := hl.armed
  have htokens : l.tokens = if .watcherClosed ∈ l.heard then 0 else 1 := harmed.tokens
  have htaken := l.length_taken_le
  rw [htokens] at htaken
  refine ⟨htokens, ⟨harmed.inOrder, ?_⟩, ?_, ?_⟩
  · refine htaken.trans ?_
    split
    · exact Nat.zero_le 1
    · exact Nat.le_refl 1
  · intro hclosed
    obtain ⟨hended, hempty⟩ := harmed.drained (.inl hclosed)
    rw [if_pos hclosed] at htaken
    have hnone : l.taken = [] := List.eq_nil_of_length_eq_zero (Nat.le_zero.1 htaken)
    refine ⟨hended, ?_⟩
    rw [harmed.inOrder, hnone, hempty, List.append_nil, List.append_nil]
  · intro m h
    rw [awaits_update]
    cases m.event? with
    | none => rfl
    | some e => rfl

/-! ## An event that is refused -/

/-- A file that is gone is not run again. -/
def removal : FileEvent := ⟨⟨"/e/hello.sh"⟩, .remove⟩

/-- The exercise is saved after that. -/
def saving : FileEvent := ⟨⟨"/e/hello.sh"⟩, .write⟩

/-- The loop when both events have come and the first one was heard. -/
def afterRemoval : AwaitLoop where
  session := (update EventLoop.forgetful (.fileChanged removal)
    (start EventLoop.oneExercise "sh").session ()).1.1
  queue := [saving]
  ended := false
  awaiters := [.waiting]
  mailbox := []
  arrived := [removal, saving]
  heard := [.fileChanged removal]

theorem reached_afterRemoval :
    Reached EventLoop.forgetful EventLoop.oneExercise "sh" afterRemoval := by
  let begin := start EventLoop.oneExercise "sh"
  have hcome : Reached EventLoop.forgetful EventLoop.oneExercise "sh"
      { begin with queue := [removal, saving], arrived := [removal, saving] } :=
    .step (.step .start (.arrive removal rfl)) (.arrive saving rfl)
  have hposted : Reached EventLoop.forgetful EventLoop.oneExercise "sh"
      { begin with
        queue := [saving], arrived := [removal, saving], awaiters := []
        mailbox := [.fileChanged removal] } :=
    .step (.step hcome (.take [] [] rfl rfl)) (.post [] [] (some removal) rfl)
  exact .step hposted (.hear () rfl)

/-- The event is refused, and the next one is waited for nevertheless. -/
theorem one_await_armed_afterRemoval :
    Reached EventLoop.forgetful EventLoop.oneExercise "sh" afterRemoval ∧
    (start EventLoop.oneExercise "sh").session.accepts removal = false ∧
    afterRemoval.awaiters.length + afterRemoval.mailbox.countP Message.ofWatch = 1 ∧
    afterRemoval.arrived =
      afterRemoval.heardEvents ++ afterRemoval.taken ++ afterRemoval.queue := by
  obtain ⟨htokens, ⟨horder, -⟩, -⟩ := one_await_armed reached_afterRemoval
  exact ⟨reached_afterRemoval, rfl, htokens, horder⟩

end AwaitLoop
end Trainer
