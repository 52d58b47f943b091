import Mathlib
import Trainer.Watcher.Table
import Trainer.Proofs.Path.Order

/-!
# The record of a watcher

A watcher is used by calls, which add a path, remove one or close it; between two calls anything may
happen to the machine.  `record_accounted` says what the record is after any of them: the paths, in
increasing order and without repeats, for which the last call that succeeded was an `add`.  A call
that is refused changes nothing, and once the watcher is closed all calls are refused.

## The argument

* The record is a list of paths that stands for a set: `insertPath` and `erasePath` keep it in order
  (`Ordered.insertPath`, `Ordered.erasePath`) and change what is in it for one path only
  (`any_insertPath`, `any_erasePath`).
* A call can do four things to a watcher (`Outcome`), a removal two (`Removal`).  Laws about
  histories of calls go through these cases and never unfold `add` or `remove`.
-/

namespace Trainer
namespace Watcher

/-! ## Lists of paths as sets -/

/-- Paths in increasing order, none of them twice. -/
def Ordered (ps : List Path) : Prop :=
  ps.Pairwise Path.Precedes

/-- After an insertion the path is among those watched, and all others as before. -/
theorem any_insertPath (p c : Path) (ps : List Path) :
    ((insertPath p ps).any fun q => q.same c) = (p.same c || ps.any fun q => q.same c) := by
  induction ps with
  | nil => simp [insertPath]
  | cons q rest ih =>
      rw [insertPath]
      split_ifs with hsame hle
      · -- The path is there already, and what is the same as one is the same as the other.
        rw [List.any_cons, Path.same_congr hsame c]
        simp
      · rw [List.any_cons]
      · rw [List.any_cons, ih, List.any_cons]
        exact Bool.or_left_comm _ _ _

/-- After an erasure the path is not among those watched, and all others as before. -/
theorem any_erasePath (p c : Path) (ps : List Path) :
    ((erasePath p ps).any fun q => q.same c) = (!p.same c && ps.any fun q => q.same c) := by
  rw [erasePath, List.any_filter]
  induction ps with
  | nil => simp
  | cons q rest ih =>
      rw [List.any_cons, List.any_cons, ih, Bool.and_or_distrib_left]
      congr 1
      -- A path that is the same as `c` is erased just if `p` is the same as `c`, too.
      cases hc : q.same c with
      | false => simp
      | true => rw [Path.same_comm q p, Path.same_comm p q, Path.same_congr hc p, Path.same_comm c p]

theorem mem_insertPath {p q : Path} {ps : List Path} (h : q ∈ insertPath p ps) :
    q = p ∨ q ∈ ps := by
  induction ps with
  | nil => exact .inl (List.mem_singleton.1 h)
  | cons r rest ih =>
      rw [insertPath] at h
      split_ifs at h
      · exact .inr h
      · exact List.mem_cons.1 h
      · rcases List.mem_cons.1 h with rfl | h
        · exact .inr List.mem_cons_self
        · exact (ih h).imp_right (List.mem_cons_of_mem r)

theorem Ordered.insertPath {ps : List Path} (h : Ordered ps) (p : Path) :
    Ordered (insertPath p ps) := by
  induction ps with
  | nil => exact List.pairwise_singleton _ p
  | cons q rest ih =>
      obtain ⟨hfirst, hrest⟩ := List.pairwise_cons.1 h
      rw [Watcher.insertPath]
      split_ifs with hsame hle
      · exact h
      · have hpq : Path.Precedes p q := ⟨hle, by simpa [Path.same_comm p q] using hsame⟩
        refine List.pairwise_cons.2 ⟨fun r hr => ?_, h⟩
        rcases List.mem_cons.1 hr with rfl | hr
        · exact hpq
        · exact hpq.trans (hfirst r hr)
      · refine List.pairwise_cons.2 ⟨fun r hr => ?_, ih hrest⟩
        rcases mem_insertPath hr with rfl | hr
        · exact .of_not_le (by simpa using hle)
        · exact hfirst r hr

theorem Ordered.erasePath {ps : List Path} (h : Ordered ps) (p : Path) :
    Ordered (erasePath p ps) :=
  h.filter _

/-! ## Calls -/

/-- A call on a watcher. -/
inductive Call where
  | add (path : Path)
  | remove (path : Path)
  | close
deriving DecidableEq

/-- What a call that succeeded did to the record. -/
inductive Change where
  | began (path : Path)
  | ended (path : Path)
deriving DecidableEq

def Change.path : Change → Path
  | .began p => p
  | .ended p => p

/-- A call, with the watcher and the machine that it found. -/
structure Asked (σ : Type) where
  call : Call
  watcher : Watcher
  machine : σ

variable {σ : Type}

namespace Asked

def after (backend : WatchBackend σ) (x : Asked σ) : Watcher :=
  match x.call with
  | .add p => (add backend p (x.watcher, x.machine)).2.1
  | .remove p => (remove backend p (x.watcher, x.machine)).2.1
  | .close => x.watcher.close

/-- Why the call was refused, if it was. -/
def failure? (backend : WatchBackend σ) (x : Asked σ) : Option Failure :=
  match x.call with
  | .add p =>
      match (add backend p (x.watcher, x.machine)).1 with
      | .ok _ => none
      | .error f => some f
  | .remove p =>
      match (remove backend p (x.watcher, x.machine)).1 with
      | .ok () => none
      | .error f => some f
  | .close => none

/--
What the call did to the record, if it succeeded: an addition is one of the path that it answers, a
removal one of the path under which the tree was watched.
-/
def change? (backend : WatchBackend σ) (x : Asked σ) : Option Change :=
  match x.call with
  | .add p => (add backend p (x.watcher, x.machine)).1.toOption.map .began
  | .remove p =>
      match (remove backend p (x.watcher, x.machine)).1 with
      | .ok () => (key backend x.watcher p x.machine).toOption.map .ended
      | .error _ => none
  | .close => none

end Asked

/-! ## What a call does -/

/-- What a removal of `p` comes to: its answer and the watcher after it. -/
inductive Removal (backend : WatchBackend σ) (w : Watcher) (h : σ) (p : Path) :
    Except Failure Unit → Watcher → Prop where
  | refused (f : Failure) :
      (∀ k, key backend w p h = .ok k → w.attached = true → (backend.unwatch k h).1 ≠ .ok ()) →
      Removal backend w h p (.error f) w
  | done (k : Path) : key backend w p h = .ok k → w.attached = true →
      (backend.unwatch k h).1 = .ok () →
      Removal backend w h p (.ok ()) { w with watched := erasePath k w.watched }

/-- Every removal comes to one of the cases of `Removal`. -/
theorem removal (backend : WatchBackend σ) (w : Watcher) (h : σ) (p : Path) :
    Removal backend w h p (remove backend p (w, h)).1 (remove backend p (w, h)).2.1 := by
  simp only [remove]
  cases hkey : key backend w p h with
  | error cause => exact .refused _ (by simp [hkey])
  | ok k =>
      simp only
      split_ifs with hattached
      · cases hunwatch : backend.unwatch k h with
        | mk answer h' =>
            cases answer with
            | error wording => exact .refused _ (by simp [hkey, hunwatch])
            | ok u => exact .done k hkey hattached (by rw [hunwatch])
      · exact .refused _ (by simp [hattached])

/-- What a call on a watcher comes to: why it was refused, what it did, and the watcher after it. -/
inductive Outcome (w : Watcher) : Call → Option Failure → Option Change → Watcher → Prop where
  | refused {call : Call} (f : Failure) : call ≠ .close → Outcome w call (some f) none w
  | began (p c : Path) : w.attached = true →
      Outcome w (.add p) none (some (.began c)) { w with watched := insertPath c w.watched }
  | ended (p k : Path) : w.attached = true →
      Outcome w (.remove p) none (some (.ended k)) { w with watched := erasePath k w.watched }
  | closed : Outcome w .close none none w.close

/-- Every call comes to one of these. -/
theorem Asked.outcome (backend : WatchBackend σ) (x : Asked σ) :
    Outcome x.watcher x.call (x.failure? backend) (x.change? backend) (x.after backend) := by
  obtain ⟨call, w, h⟩ := x
  cases call with
  | add p =>
      simp only [failure?, change?, after, Watcher.add]
      cases hp : backend.canonical p h with
      | error cause => exact .refused _ (by simp)
      | ok c =>
          simp only
          split_ifs with hattached
          · cases hwatch : backend.watch c h with
            | mk answer h' =>
                cases answer with
                | error wording => exact .refused _ (by simp)
                | ok u => exact .began p c hattached
          · exact .refused _ (by simp)
  | remove p =>
      simp only [failure?, change?, after]
      have hcase := removal backend w h p
      generalize (remove backend p (w, h)).1 = answer at hcase ⊢
      generalize (remove backend p (w, h)).2.1 = w' at hcase ⊢
      cases hcase with
      | refused f => exact .refused f (by simp)
      | done k hkey hattached =>
          simp only [hkey]
          exact .ended p k hattached
  | close => exact .closed

@[simp] theorem watched_close (w : Watcher) : w.close.watched = w.watched := by
  unfold close
  split <;> rfl

@[simp] theorem closed_close (w : Watcher) : w.close.closed = true := by
  unfold close
  split_ifs with hclosed
  · exact hclosed
  · rfl

/-- Closing a watcher takes the system away from it. -/
theorem attached_close {w : Watcher} (hw : w.attached = !w.closed) : w.close.attached = false := by
  unfold close
  split_ifs with hclosed
  · rw [hw, hclosed]
    rfl
  · rfl

/-! ## Histories of calls -/

/-- A watcher and the calls that made it what it is, the last one first; the machine is free. -/
inductive History (backend : WatchBackend σ) : List (Asked σ) → Watcher → Prop where
  | fresh : History backend [] fresh
  | call {log : List (Asked σ)} {w : Watcher} (call : Call) (h : σ) : History backend log w →
      History backend (⟨call, w, h⟩ :: log) (Asked.after backend ⟨call, w, h⟩)

def changes (backend : WatchBackend σ) (log : List (Asked σ)) : List Change :=
  log.filterMap (Asked.change? backend)

/-- Whether the last change about a path is that it was added. -/
def LastBegan (cs : List Change) (c : Path) : Prop :=
  ∃ b, cs.find? (fun d => d.path.same c) = some (.began b)

/-- The last change of a path is a beginning if the newest one is, or else by the older ones. -/
theorem lastBegan_began {cs : List Change} {b c : Path} :
    LastBegan (.began b :: cs) c ↔ b.same c = true ∨ LastBegan cs c := by
  rw [LastBegan, LastBegan, List.find?_cons]
  cases hsame : b.same c with
  | false => simp [Change.path, hsame]
  | true => simp [Change.path, hsame]

theorem lastBegan_ended {cs : List Change} {k c : Path} :
    LastBegan (.ended k :: cs) c ↔ k.same c = false ∧ LastBegan cs c := by
  rw [LastBegan, LastBegan, List.find?_cons]
  cases hsame : k.same c with
  | false => simp [Change.path, hsame]
  | true => simp [Change.path, hsame]

/-- What is true of a watcher after any calls. -/
structure Accounted (backend : WatchBackend σ) (log : List (Asked σ)) (w : Watcher) : Prop where
  ordered : Ordered w.watched
  watches_iff (c : Path) : w.watches c = true ↔ LastBegan (changes backend log) c
  attached : w.attached = !w.closed
  closed_iff : w.closed = true ↔ ∃ x ∈ log, x.call = .close
  /-- The record is as it was at every call that closed the watcher. -/
  kept : ∀ x ∈ log, x.call = .close → w.watched = x.watcher.watched

/-- A fresh watcher watches nothing, and nothing has begun. -/
theorem accounted_fresh (backend : WatchBackend σ) : Accounted backend [] fresh where
  ordered := List.Pairwise.nil
  watches_iff c := by simp [watches, fresh, changes, LastBegan]
  attached := rfl
  closed_iff := by simp [fresh]
  kept := by simp

variable {backend : WatchBackend σ} {log : List (Asked σ)} {w : Watcher}

/-- A watcher that the system watches for was not closed. -/
theorem Accounted.not_closed (hw : Accounted backend log w) (hattached : w.attached = true) :
    ∀ x ∈ log, x.call ≠ .close := by
  intro x hx hclose
  have hclosed : w.closed = true := hw.closed_iff.2 ⟨x, hx, hclose⟩
  have hboth := hw.attached
  rw [hattached, hclosed] at hboth
  cases hboth

/-- What closes a watcher among the calls is the latest call or an earlier one. -/
theorem exists_close_cons {x : Asked σ} :
    (∃ y ∈ x :: log, y.call = .close) ↔ x.call = .close ∨ ∃ y ∈ log, y.call = .close := by
  simp

/-- A call keeps all of this. -/
theorem Accounted.call {x : Asked σ} (hw : Accounted backend log x.watcher) :
    Accounted backend (x :: log) (x.after backend) := by
  have hout := x.outcome backend
  have hlog : changes backend (x :: log) =
      (x.change? backend).toList ++ changes backend log := by
    rw [changes, List.filterMap_cons, changes]
    cases x.change? backend <;> rfl
  obtain ⟨call, w, h⟩ := x
  dsimp only at hw hout
  generalize Asked.failure? backend ⟨call, w, h⟩ = failure at hout
  generalize Asked.change? backend ⟨call, w, h⟩ = change at hout hlog
  generalize Asked.after backend ⟨call, w, h⟩ = w' at hout ⊢
  cases hout with
  | refused f hcall =>
      refine ⟨hw.ordered, fun c => ?_, hw.attached, ?_, ?_⟩
      · rw [hlog]
        exact hw.watches_iff c
      · rw [exists_close_cons, hw.closed_iff]
        simp [hcall]
      · intro y hy hclose
        rcases List.mem_cons.1 hy with rfl | hy
        · exact absurd hclose hcall
        · exact hw.kept y hy hclose
  | began p b hattached =>
      have hopen := hw.not_closed hattached
      refine ⟨hw.ordered.insertPath b, fun c => ?_, hw.attached, ?_, ?_⟩
      · rw [hlog, Option.toList_some, List.singleton_append, lastBegan_began, ← hw.watches_iff c,
          watches, any_insertPath, Bool.or_eq_true, watches]
      · rw [exists_close_cons, hw.closed_iff]
        simp
      · intro y hy hclose
        rcases List.mem_cons.1 hy with rfl | hy
        · cases hclose
        · exact absurd hclose (hopen y hy)
  | ended p k hattached =>
      have hopen := hw.not_closed hattached
      refine ⟨hw.ordered.erasePath k, fun c => ?_, hw.attached, ?_, ?_⟩
      · rw [hlog, Option.toList_some, List.singleton_append, lastBegan_ended, ← hw.watches_iff c,
          watches, any_erasePath, Bool.and_eq_true, Bool.not_eq_true', watches]
      · rw [exists_close_cons, hw.closed_iff]
        simp
      · intro y hy hclose
        rcases List.mem_cons.1 hy with rfl | hy
        · cases hclose
        · exact absurd hclose (hopen y hy)
  | closed =>
      refine ⟨?_, fun c => ?_, ?_, ?_, ?_⟩
      · rw [watched_close]
        exact hw.ordered
      · rw [hlog, watches, watched_close]
        exact hw.watches_iff c
      · rw [closed_close, attached_close hw.attached]
        rfl
      · simp
      · intro y hy hclose
        rw [watched_close]
        rcases List.mem_cons.1 hy with rfl | hy
        · rfl
        · exact hw.kept y hy hclose

/-- The record of a watcher accounts for its history, by induction on the calls. -/
theorem History.accounted (hw : History backend log w) : Accounted backend log w := by
  induction hw with
  | fresh => exact accounted_fresh backend
  | call call h _ ih => exact Accounted.call (x := ⟨call, _, h⟩) ih

/-! ## Calls on a closed watcher -/

/-- Why a call on a closed watcher is refused: its path cannot be resolved, or the watcher is closed. -/
def refusal (p : Path) : Except IoError Path → Failure
  | .error cause => .unresolved p cause
  | .ok _ => .closed

theorem add_of_not_attached (hw : w.attached = false) (p : Path) (h : σ) :
    add backend p (w, h) = (.error (refusal p (backend.canonical p h)), (w, h)) := by
  simp only [add]
  cases backend.canonical p h with
  | error cause => rfl
  | ok c => simp [hw, refusal]

theorem remove_of_not_attached (hw : w.attached = false) (p : Path) (h : σ) :
    remove backend p (w, h) = (.error (refusal p (key backend w p h)), (w, h)) := by
  simp only [remove]
  cases key backend w p h with
  | error cause => rfl
  | ok k => simp [hw, refusal]

/-- A watcher that is closed already is left as it is. -/
theorem close_of_closed (hw : w.closed = true) : w.close = w :=
  if_pos hw

/-! ## The law -/

/-- A call that was refused has changed nothing. -/
theorem after_of_failure {x : Asked σ} {f : Failure} (hf : x.failure? backend = some f) :
    x.after backend = x.watcher := by
  have hout := x.outcome backend
  rw [hf] at hout
  generalize x.change? backend = change at hout
  generalize x.after backend = w' at hout ⊢
  generalize x.call = call at hout
  cases hout with
  | refused => rfl

/--
After any calls, on any machine, the record holds in increasing order and without repeats exactly
the paths for which the last call that succeeded was an addition.  A call that is refused changes
nothing.  A watcher is closed for ever by the first call that closes it: closing it again changes
nothing, every other call is refused, because the path cannot be resolved (and is not in the
record, for a removal) or else because the watcher is closed, and the record stays as it was when
the watcher was closed.
-/
theorem record_accounted (hw : History backend log w) :
    w.watched.Pairwise (fun p q => p.le q = true ∧ p.same q = false) ∧
    (∀ c, (∃ q ∈ w.watched, q.same c = true) ↔
      ∃ b, (changes backend log).find? (fun d => d.path.same c) = some (.began b)) ∧
    (∀ call h f, Asked.failure? backend ⟨call, w, h⟩ = some f →
      Asked.after backend ⟨call, w, h⟩ = w) ∧
    (w.closed = true ↔ ∃ x ∈ log, x.call = .close) ∧
    (w.closed = true →
      w.close = w ∧
      (∀ p h, add backend p (w, h) = (.error (refusal p (backend.canonical p h)), (w, h))) ∧
      (∀ p h, remove backend p (w, h) =
        (.error (refusal p (if w.watches p then .ok p else backend.canonical p h)), (w, h))) ∧
      ∀ x ∈ log, x.call = .close → w.watched = x.watcher.watched) := by
  have hacc := hw.accounted
  refine ⟨hacc.ordered.imp fun h => ⟨h.le, h.differ⟩, fun c => ?_, ?_, hacc.closed_iff, ?_⟩
  · rw [← List.any_eq_true]
    exact hacc.watches_iff c
  · intro call h f hf
    exact after_of_failure hf
  · intro hclosed
    have hdetached : w.attached = false := by
      rw [hacc.attached, hclosed]
      rfl
    exact ⟨close_of_closed hclosed, add_of_not_attached hdetached,
      remove_of_not_attached hdetached, hacc.kept⟩

/-! ## A machine with two directories -/

/-- A machine with the directories `/d` and `/x`. -/
def twoDirectories : WatchTable × Sandbox :=
  (WatchTable.empty, Sandbox.ofTree ⟨[(["d"], .directory), (["x"], .directory)], [], 0, []⟩ default)

theorem record_accounted_closed :
    ∃ (log : List (Asked (WatchTable × Sandbox))) (w : Watcher),
      History Sandbox.watchBackend log w ∧
      changes Sandbox.watchBackend log = [.began ⟨"/d"⟩, .began ⟨"/x"⟩] ∧
      w.watched = [⟨"/d"⟩, ⟨"/x"⟩] ∧ w.closed = true ∧
      w.watched.Pairwise (fun p q => p.le q = true ∧ p.same q = false) ∧
      ∀ p h, add Sandbox.watchBackend p (w, h) =
        (.error (refusal p (Sandbox.watchBackend.canonical p h)), (w, h)) := by
  have hw : History Sandbox.watchBackend _ _ :=
    .call .close twoDirectories <| .call (.add ⟨"/nowhere"⟩) twoDirectories <|
      .call (.add ⟨"/x/../d"⟩) twoDirectories <| .call (.add ⟨"/x"⟩) twoDirectories .fresh
  obtain ⟨hordered, -, -, hclosed, hlast⟩ := record_accounted hw
  have hover := hclosed.2 ⟨_, List.mem_cons_self, rfl⟩
  exact ⟨_, _, hw, by decide +kernel, by decide +kernel, hover, hordered, (hlast hover).2.1⟩

end Watcher
end Trainer
