import Mathlib
import Trainer.Proofs.Watcher.Record

/-!
# Taking back an addition

A watcher keeps the canonical form of a path that is added.  A path that is to be removed is looked
for in the record as it is written, and is resolved anew if it is not there.  So the path that
`add` has answered can always be removed, whatever has become of the tree since; the path that was
given to `add` can be removed just if it is the same, or if it still leads to it
(`undoes_iff`).  A path through a directory that is gone does not (`removal_through_missing`).
-/

namespace Trainer
namespace Watcher

variable {σ : Type} {backend : WatchBackend σ} {w : Watcher} {p c k : Path} {h : σ}

/-! ## What is still watched -/

/-- A path that was added and not removed since is one that was added last. -/
theorem lastBegan_append {cs ds : List Change}
    (hcs : ∀ k, .ended k ∈ cs → k.same c = false) : LastBegan (cs ++ .began c :: ds) c := by
  induction cs with
  | nil => exact lastBegan_began.2 (.inl (Path.same_refl c))
  | cons d rest ih =>
      have hlast := ih fun k hk => hcs k (List.mem_cons_of_mem d hk)
      cases d with
      | began b => exact lastBegan_began.2 (.inr hlast)
      | ended k => exact lastBegan_ended.2 ⟨hcs k List.mem_cons_self, hlast⟩

/-- A path that was added is watched until a removal ends it. -/
theorem History.watches_of_added {later earlier : List (Asked σ)} {w₀ : Watcher} {h₀ : σ}
    (hw : History backend (later ++ ⟨.add p, w₀, h₀⟩ :: earlier) w)
    (hadd : (add backend p (w₀, h₀)).1 = .ok c)
    (hkept : ∀ x ∈ later, ∀ k, x.change? backend = some (.ended k) → k.same c = false) :
    w.watches c = true := by
  have hchange : Asked.change? backend ⟨.add p, w₀, h₀⟩ = some (.began c) := by
    simp only [Asked.change?, hadd]
    rfl
  rw [hw.accounted.watches_iff, changes, List.filterMap_append,
    List.filterMap_cons_some hchange]
  refine lastBegan_append fun k hk => ?_
  obtain ⟨x, hx, hended⟩ := List.mem_filterMap.1 hk
  exact hkept x hx k hended

theorem watches_congr (hsame : p.same c = true) : w.watches p = w.watches c := by
  have hrecord (q : Path) : q.same p = q.same c := by
    rw [Path.same_comm q p, Path.same_congr hsame q, Path.same_comm c q]
  simp only [watches, hrecord]

/-! ## Removals -/

/-- A removal that succeeds, and after which a path is not watched. -/
def Undoes (backend : WatchBackend σ) (w : Watcher) (h : σ) (p c : Path) : Prop :=
  (remove backend p (w, h)).1 = .ok () ∧ (remove backend p (w, h)).2.1.watches c = false

/-- An erased path is not watched any more, and no other one is concerned. -/
theorem watches_erase (k c : Path) (w : Watcher) :
    watches { w with watched := erasePath k w.watched } c = (!k.same c && w.watches c) :=
  any_erasePath k c w.watched

/-- A watched path is the same as the one under which another path is looked for. -/
def LeadsTo (backend : WatchBackend σ) (w : Watcher) (h : σ) (p c : Path) : Prop :=
  ∃ k, key backend w p h = .ok k ∧ k.same c = true

/-- A removal undoes an addition just if its path leads to what was added. -/
theorem undoes_iff_leadsTo (hattached : w.attached = true) (hwatched : w.watches c = true)
    (hgives : ∀ k, k.same c = true → (backend.unwatch k h).1 = .ok ()) :
    Undoes backend w h p c ↔ LeadsTo backend w h p c := by
  unfold Undoes LeadsTo
  have hcase := removal backend w h p
  generalize (remove backend p (w, h)).1 = answer at hcase ⊢
  generalize (remove backend p (w, h)).2.1 = w' at hcase ⊢
  cases hcase with
  | refused f hnot =>
      constructor
      · rintro ⟨hok, -⟩
        cases hok
      · rintro ⟨k, hkey, hsame⟩
        exact absurd (hgives k hsame) (hnot k hkey hattached)
  | done k hkey =>
      simp [watches_erase, hwatched, hkey]

/-- What a removal does not undo stays watched. -/
theorem watches_of_not_undoes (hwatched : w.watches c = true) (hnot : ¬ Undoes backend w h p c) :
    (remove backend p (w, h)).2.1.watches c = true := by
  unfold Undoes at hnot
  have hcase := removal backend w h p
  generalize (remove backend p (w, h)).1 = answer at hcase hnot
  generalize (remove backend p (w, h)).2.1 = w' at hcase hnot ⊢
  cases hcase with
  | refused f => exact hwatched
  | done k => simpa using hnot

/-- A path leads to what was added by its own text, or by its canonical form. -/
theorem leadsTo_iff (hwatched : w.watches c = true) : LeadsTo backend w h p c ↔
    p.same c = true ∨
      w.watches p = false ∧ ∃ k, backend.canonical p h = .ok k ∧ k.same c = true := by
  unfold LeadsTo key
  cases hp : w.watches p with
  | true => simp
  | false =>
      -- A path that is the same as a watched one would be watched.
      have hother : p.same c = false := by
        by_contra hsame
        rw [watches_congr (by simpa using hsame), hwatched] at hp
        cases hp
      simp [hother]

/--
A path was added, its canonical form `c` was not removed since, the watcher is open, and the system
stops watching `c` when it is asked to.  Then a removal of the path that was given to `add` takes
`c` out of the record just if the path is `c` itself, or if it is not in the record and still leads
to `c`; otherwise `c` stays watched.  A removal of `c` always does.
-/
theorem undoes_iff {later earlier : List (Asked σ)} {w₀ : Watcher} {h₀ : σ}
    (hw : History backend (later ++ ⟨.add p, w₀, h₀⟩ :: earlier) w)
    (hadd : (add backend p (w₀, h₀)).1 = .ok c)
    (hkept : ∀ x ∈ later, ∀ k, x.change? backend = some (.ended k) → k.same c = false)
    (hopen : w.closed = false)
    (hgives : ∀ k, k.same c = true → (backend.unwatch k h).1 = .ok ()) :
    (Undoes backend w h p c ↔ p.same c = true ∨
      w.watches p = false ∧ ∃ k, backend.canonical p h = .ok k ∧ k.same c = true) ∧
    (¬ Undoes backend w h p c → (remove backend p (w, h)).2.1.watches c = true) ∧
    Undoes backend w h c c := by
  have hwatched : w.watches c = true := hw.watches_of_added hadd hkept
  have hattached : w.attached = true := by
    rw [hw.accounted.attached, hopen]
    rfl
  have hundoes (q : Path) := undoes_iff_leadsTo (p := q) hattached hwatched hgives
  refine ⟨(hundoes p).trans (leadsTo_iff hwatched), watches_of_not_undoes hwatched, ?_⟩
  exact (hundoes c).2 ((leadsTo_iff hwatched).2 (.inl (Path.same_refl c)))

/-! ## A directory on the way is gone -/

/-- The watcher after the addition of `/d` by way of `/x`. -/
def roundabout : Watcher × WatchTable × Sandbox :=
  (add Sandbox.watchBackend ⟨"/x/../d"⟩ (fresh, twoDirectories)).2

/-- The machine when `/x` is gone since. -/
def withoutX : WatchTable × Sandbox :=
  (roundabout.2.1, { roundabout.2.2 with tree := roundabout.2.2.tree.cut ["x"] })

theorem history_roundabout : History Sandbox.watchBackend
    ([] ++ [⟨.add ⟨"/x/../d"⟩, fresh, twoDirectories⟩]) roundabout.1 :=
  .call (.add ⟨"/x/../d"⟩) twoDirectories .fresh

/-- The system still watches `/d`, and stops when it is asked to. -/
theorem unwatch_roundabout {h : WatchTable × Sandbox} (hh : h ∈ [roundabout.2, withoutX])
    {k : Path} (hk : k.same ⟨"/d"⟩ = true) : (Sandbox.watchBackend.unwatch k h).1 = .ok () := by
  have hnames : k.components = [.root, .name "d"] :=
    (Path.same_iff.1 hk).trans (by decide +kernel)
  have hfound : (h.1.unwatchTree ["d"]).isSome = true := by
    rcases List.mem_cons.1 hh with rfl | hh
    · decide +kernel
    · rw [List.mem_singleton.1 hh]
      decide +kernel
  obtain ⟨table, htable⟩ := Option.isSome_iff_exists.1 hfound
  simp [Sandbox.watchBackend, hnames, htable]

/-- With `/x` there the addition is undone by the path that was added, and without it by `/d`. -/
theorem undoes_iff_roundabout :
    (add Sandbox.watchBackend ⟨"/x/../d"⟩ (fresh, twoDirectories)).1 = .ok ⟨"/d"⟩ ∧
      roundabout.1.closed = false ∧
      Undoes Sandbox.watchBackend roundabout.1 roundabout.2 ⟨"/x/../d"⟩ ⟨"/d"⟩ ∧
      Undoes Sandbox.watchBackend roundabout.1 withoutX ⟨"/d"⟩ ⟨"/d"⟩ := by
  have hadd : (add Sandbox.watchBackend ⟨"/x/../d"⟩ (fresh, twoDirectories)).1 = .ok ⟨"/d"⟩ := by
    decide +kernel
  have hopen : roundabout.1.closed = false := by decide +kernel
  have hthere := undoes_iff history_roundabout hadd (by simp) hopen
    (fun k hk => unwatch_roundabout (h := roundabout.2) (by simp) hk)
  have hgone := undoes_iff history_roundabout hadd (by simp) hopen
    (fun k hk => unwatch_roundabout (h := withoutX) (by simp) hk)
  refine ⟨hadd, hopen, hthere.1.2 (.inr ⟨by decide +kernel, ⟨"/d"⟩, ?_, by decide +kernel⟩),
    hgone.2.2⟩
  decide +kernel

/-- Without `/x` the path that was added cannot be removed, and `/d` stays watched. -/
theorem removal_through_missing :
    History Sandbox.watchBackend ([] ++ [⟨.add ⟨"/x/../d"⟩, fresh, twoDirectories⟩])
        roundabout.1 ∧
      (add Sandbox.watchBackend ⟨"/x/../d"⟩ (fresh, twoDirectories)).1 = .ok ⟨"/d"⟩ ∧
      roundabout.1.closed = false ∧
      (∀ k, k.same ⟨"/d"⟩ = true → (Sandbox.watchBackend.unwatch k withoutX).1 = .ok ()) ∧
      (remove Sandbox.watchBackend ⟨"/x/../d"⟩ (roundabout.1, withoutX)).1 =
        .error (.unresolved ⟨"/x/../d"⟩ .notFound) ∧
      (remove Sandbox.watchBackend ⟨"/x/../d"⟩ (roundabout.1, withoutX)).2.1.watches ⟨"/d"⟩ =
        true := by
  refine ⟨history_roundabout, by decide +kernel, by decide +kernel, ?_, by decide +kernel,
    by decide +kernel⟩
  intro k hk
  exact unwatch_roundabout (by simp) hk

end Watcher
end Trainer
