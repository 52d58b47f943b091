import Mathlib
import Trainer.Sandbox
import Trainer.Proofs.FileTree.Changes
import Trainer.Proofs.Progress.SidePath
import Trainer.Proofs.Progress.Store

/-!
# Replacing the stored progress

On a tree of files, a save makes the directory of the stored file, writes the side file and gives it
the stored one's name.  Wherever it stops, be it by the failure of a step or because the machine
stops in the midst of one (`BrokenOff`), what the stored file's path leads to is what it led to
before; when it is done, that is the text of the progress, and the side file is gone
(`save_replaces_or_leaves`).

## The argument

* The directories that are made uncover nothing, if the path is straight (`Grows.contents?_eq`).  If
  it is not, they may: a path through `x/..` leads to a file beside `x` as soon as `x` is there
  (`save_uncovers`).
* Whatever is written of the side file does not touch the stored one, as the two paths lead to two
  places (`ne_of_sidePath`).
* The last step is done at once.
-/

namespace Trainer

/-! ## What a machine does -/

namespace Sandbox

open Trainer.FileTree

variable {p source target : Path} {text : String} {answer : Except IoError Unit} {s s' : Sandbox}

theorem exists?_host (p : Path) (s : Sandbox) : host.exists? p s = s.tree.exists? p := by
  simp only [Host.exists?, host, kind?, FileTree.exists?]
  split
  · rename_i hlookup
    simp [hlookup]
  · rename_i hlookup
    simp [hlookup]
  · rename_i hlookup
    simp [hlookup]

/-- A change is done, or the machine is as it was. -/
theorem change_cases {f : FileTree → Except IoError FileTree} (h : change f s = (answer, s')) :
    (∃ tree, f s.tree = .ok tree ∧ answer = .ok () ∧ s' = { s with tree }) ∨
      ∃ cause, answer = .error cause ∧ s' = s := by
  unfold change at h
  split at h
  · rename_i tree hf
    cases h
    exact .inl ⟨tree, hf, rfl, rfl⟩
  · cases h
    exact .inr ⟨_, rfl, rfl⟩

theorem makeDirs_host (h : host.makeDirs p s = (answer, s')) :
    ∃ tree, s.tree.dig p = (answer, tree) ∧ s' = { s with tree } := by
  rcases hdig : s.tree.dig p with ⟨answer', tree⟩
  simp only [host, makeDirs, hdig, Prod.mk.injEq] at h
  exact ⟨tree, by rw [h.1], h.2.symm⟩

/-- Making directories, whether or not it succeeds, leaves some of them made. -/
theorem dug_of_makeDirs (h : host.makeDirs p s = (answer, s')) :
    ∃ tree, Dug p s.tree tree ∧ s' = { s with tree } := by
  obtain ⟨tree, hdig, hs⟩ := makeDirs_host h
  have hdug := dig_dug s.tree p
  rw [hdig] at hdug
  exact ⟨tree, hdug, hs⟩

/-- A text is written into the tree, or nothing happens. -/
theorem writeText_host (h : host.writeText p text s = (answer, s')) :
    (∃ tree, s.tree.writeText p text = .ok tree ∧ answer = .ok () ∧ s' = { s with tree }) ∨
      ∃ cause, answer = .error cause ∧ s' = s :=
  change_cases (f := fun t => t.writeText p text) h

theorem rename_host (h : host.rename source target s = (answer, s')) :
    (∃ tree, s.tree.rename source target = .ok tree ∧ answer = .ok () ∧ s' = { s with tree }) ∨
      ∃ cause, answer = .error cause ∧ s' = s :=
  change_cases (f := fun t => t.rename source target) h

end Sandbox

namespace Progress

open Trainer.FileTree

variable {path : Path} {name text : String} {p : Progress} {s s' : Sandbox} {t t' : FileTree}
  {step : SaveStep} {steps : List SaveStep}

/-! ## Where a save stops -/

/--
What a step leaves that stops before it is done.  Any of the directories may have been made, and
anything may have been written; a file gets its new name at once, or not at all.
-/
inductive SaveStep.Partway : SaveStep → FileTree → FileTree → Prop where
  | still {step : SaveStep} {t : FileTree} : Partway step t t
  | dug {dir : Path} {t t' : FileTree} : Dug dir t t' → Partway (.makeDirs dir) t t'
  | written {side : Path} {text : String} {bytes : ByteArray} {t t' : FileTree} :
      t.writeBytes side bytes = .ok t' → Partway (.write side text) t t'

/-- What steps leave that are broken off before the last one is done. -/
inductive BrokenOff : List SaveStep → Sandbox → Sandbox → Prop where
  | within {step : SaveStep} {rest : List SaveStep} {s : Sandbox} {tree : FileTree} :
      step.Partway s.tree tree → BrokenOff (step :: rest) s { s with tree }
  | later {step : SaveStep} {rest : List SaveStep} {s s' s'' : Sandbox} :
      step.run Sandbox.host s = (.ok (), s') → BrokenOff rest s' s'' →
      BrokenOff (step :: rest) s s''

/-! ## What the steps do -/

/-- A step that changes the tree as a whole is done, or it leaves everything as it was. -/
theorem orElseFail_change_cases {f : FileTree → Except IoError FileTree}
    {word : IoError → SaveFailure} {r : Except SaveFailure Unit}
    (h : (Sandbox.change f).orElseFail word s = (r, s')) :
    (∃ tree, f s.tree = .ok tree ∧ r = .ok () ∧ s' = { s with tree }) ∨
      ∃ cause, r = .error cause ∧ s' = s := by
  rcases orElseFail_cases h with ⟨_, hchange, rfl⟩ | ⟨e, hchange, rfl⟩
  · rcases Sandbox.change_cases hchange with ⟨tree, hf, -, hs⟩ | ⟨cause, hno, -⟩
    · exact .inl ⟨tree, hf, rfl, hs⟩
    · cases hno
  · rcases Sandbox.change_cases hchange with ⟨tree, -, hno, -⟩ | ⟨cause, -, hs⟩
    · cases hno
    · exact .inr ⟨_, rfl, hs⟩

/-- The side file is written as the machine writes, or nothing happens. -/
theorem run_write_cases {side : Path} {r : Except SaveFailure Unit}
    (h : (SaveStep.write side text).run Sandbox.host s = (r, s')) :
    (∃ tree, s.tree.writeBytes side text.toUTF8 = .ok tree ∧ r = .ok () ∧
      s' = { s with tree }) ∨ ∃ cause, r = .error cause ∧ s' = s :=
  orElseFail_change_cases (f := fun t => t.writeText side text) h

/-- The side file is moved as the machine moves, or nothing happens. -/
theorem run_replace_cases {source target : Path} {r : Except SaveFailure Unit}
    (h : (SaveStep.replace source target).run Sandbox.host s = (r, s')) :
    (∃ tree, s.tree.rename source target = .ok tree ∧ r = .ok () ∧ s' = { s with tree }) ∨
      ∃ cause, r = .error cause ∧ s' = s :=
  orElseFail_change_cases (f := fun t => t.rename source target) h

/-- Whatever becomes of it, making directories only digs. -/
theorem dug_of_run {dir : Path} {r : Except SaveFailure Unit}
    (h : (SaveStep.makeDirs dir).run Sandbox.host s = (r, s')) :
    ∃ tree, Dug dir s.tree tree ∧ s' = { s with tree } := by
  rcases orElseFail_cases h with ⟨_, hmake, -⟩ | ⟨_, hmake, -⟩
  · exact Sandbox.dug_of_makeDirs hmake
  · exact Sandbox.dug_of_makeDirs hmake

/-- A step that fails stops before it is done. -/
theorem partway_of_failed {cause : SaveFailure}
    (h : step.run Sandbox.host s = (.error cause, s')) :
    ∃ tree, step.Partway s.tree tree ∧ s' = { s with tree } := by
  cases step with
  | makeDirs dir =>
      obtain ⟨tree, hdug, hs⟩ := dug_of_run h
      exact ⟨tree, .dug hdug, hs⟩
  -- What the system refuses to write or to rename, it leaves alone.
  | write side text =>
      rcases run_write_cases h with ⟨tree, -, hno, -⟩ | ⟨_, -, hs⟩
      · cases hno
      · exact ⟨s.tree, .still, hs⟩
  | replace source target =>
      rcases run_replace_cases h with ⟨tree, -, hno, -⟩ | ⟨_, -, hs⟩
      · cases hno
      · exact ⟨s.tree, .still, hs⟩

/-- Steps of which one fails are broken off there. -/
theorem brokenOff_of_failed {cause : SaveFailure}
    (h : runSteps Sandbox.host steps s = (.error cause, s')) : BrokenOff steps s s' := by
  induction steps generalizing s with
  | nil => cases h
  | cons step rest ih =>
      rcases runSteps_cons_cases h with ⟨t, hstep, hrest⟩ | ⟨cause', hstep, -⟩
      · exact .later hstep (ih hrest)
      · obtain ⟨tree, hpart, rfl⟩ := partway_of_failed hstep
        exact .within hpart

/-! ## Broken off -/

/-- Writing the side file does not touch the stored one. -/
theorem contents?_of_write (hname : path.fileName? = some name) {bytes : ByteArray}
    (h : t.writeBytes (sidePath path) bytes = .ok t') : t'.contents? path = t.contents? path := by
  obtain ⟨side, hside, hwritten⟩ := written_of_eq h
  exact hwritten.contents?_eq fun place hplace => ne_of_sidePath hname hplace hside

/-- Broken off before the last step, a save leaves the file as it was. -/
theorem contents?_of_brokenOff_replace (hname : path.fileName? = some name)
    (h : BrokenOff [.write (sidePath path) text, .replace (sidePath path) path] s s') :
    s'.tree.contents? path = s.tree.contents? path := by
  cases h with
  | within hpart =>
      cases hpart with
      | still => rfl
      | written hwrite => exact contents?_of_write hname hwrite
  | later hwrite hrest =>
      rcases run_write_cases hwrite with ⟨tree, hwritten, -, rfl⟩ | ⟨_, hno, -⟩
      · cases hrest with
        | within hpart =>
            -- The new name is given at once.
            cases hpart with
            | still => exact contents?_of_write hname hwritten
        | later _ hend => cases hend
      · cases hno

/-- A save that is broken off leaves what a straight path leads to. -/
theorem contents?_of_brokenOff (hname : path.fileName? = some name) (ht : s.tree.Grounded)
    (hstraight : s.tree.straight path = true) (h : BrokenOff (p.saveSteps path) s s') :
    s'.tree.contents? path = s.tree.contents? path := by
  unfold saveSteps at h
  cases hparent : path.parent? with
  | none =>
      rw [hparent] at h
      exact contents?_of_brokenOff_replace hname h
  | some dir =>
      rw [hparent] at h
      cases h with
      | within hpart =>
          cases hpart with
          | still => rfl
          | dug hdug => exact hdug.grows.contents?_eq ht hstraight
      | later hmake hrest =>
          obtain ⟨tree, hdug, rfl⟩ := dug_of_run hmake
          exact (contents?_of_brokenOff_replace hname hrest).trans
            (hdug.grows.contents?_eq ht hstraight)

/-! ## Done -/

/-- Carried out, a save leaves the new text and no side file. -/
theorem contents?_of_replaced (hname : path.fileName? = some name) (ht : s.tree.Grounded)
    (h : runSteps Sandbox.host [.write (sidePath path) text, .replace (sidePath path) path] s =
      (.ok (), s')) :
    s'.tree.contents? path = some text.toUTF8 ∧ s'.tree.exists? (sidePath path) = false := by
  rcases runSteps_cons_cases h with ⟨s₁, hwrite, hrest⟩ | ⟨_, -, hno⟩
  · rcases run_write_cases hwrite with ⟨tree, hwritten, -, rfl⟩ | ⟨_, hno, -⟩
    · rcases runSteps_cons_cases hrest with ⟨s₂, hreplace, hend⟩ | ⟨_, -, hno⟩
      · cases hend
        rcases run_replace_cases hreplace with ⟨tree', hrenamed, -, rfl⟩ | ⟨_, hno, -⟩
        · obtain ⟨side, hside, hfile⟩ := written_of_eq hwritten
          -- The file has taken no directory's place, so the paths lead where they led.
          have hside' : tree.resolve (sidePath path) = .ok side :=
            hfile.keepsDirectories.resolve hside
          obtain ⟨i, hget⟩ := hfile.file
          exact renamed_of_eq (hfile.grounded ht) hside' hget
            (fun place hplace => not_prefix_of_sidePath hname hplace hside') hrenamed
        · cases hno
      · cases hno
    · cases hno
  · cases hno

/-- A save that succeeds leaves the text of the progress, and no side file. -/
theorem contents?_of_saved (hname : path.fileName? = some name) (ht : s.tree.Grounded)
    (h : save Sandbox.host path p s = (.ok (), s')) :
    s'.tree.contents? path = some p.render.toUTF8 ∧ s'.tree.exists? (sidePath path) = false := by
  unfold save saveSteps at h
  cases hparent : path.parent? with
  | none =>
      rw [hparent] at h
      exact contents?_of_replaced hname ht h
  | some dir =>
      rw [hparent] at h
      rcases runSteps_cons_cases h with ⟨s₁, hmake, hrest⟩ | ⟨_, -, hno⟩
      · obtain ⟨tree, hdug, rfl⟩ := dug_of_run hmake
        exact contents?_of_replaced hname (hdug.grounded ht) hrest
      · cases hno

/--
A path without `..` is straight in every tree.  So what it leads to stays as it was when a save to
it fails, and when it is broken off.
-/
theorem contents?_of_unsaved (hname : path.fileName? = some name) (hdots : ".." ∉ path.steps)
    (ht : s.tree.Grounded) :
    (∀ cause s', save Sandbox.host path p s = (.error cause, s') →
      s'.tree.contents? path = s.tree.contents? path) ∧
    ∀ s', BrokenOff (p.saveSteps path) s s' → s'.tree.contents? path = s.tree.contents? path := by
  have hstraight := straight_of_not_mem s.tree hdots
  refine ⟨fun cause s' hfailed => ?_, fun s' hbroken => ?_⟩
  · exact contents?_of_brokenOff hname ht hstraight (brokenOff_of_failed hfailed)
  · exact contents?_of_brokenOff hname ht hstraight hbroken

/--
A save that succeeds replaces the stored file as a whole and leaves no side file.  If the path is
straight, a save that fails, and one that is broken off anywhere before it is done, leaves what the
path leads to as it was.  The side file's path is never the path itself, and never leads there.
-/
theorem save_replaces_or_leaves (hname : path.fileName? = some name) (ht : s.tree.Grounded)
    (p : Progress) :
    ((sidePath path).same path = false ∧
      ∀ (t : FileTree) (place side : List String), t.resolve path = .ok place →
        t.resolve (sidePath path) = .ok side → side ≠ place) ∧
    (∀ s', save Sandbox.host path p s = (.ok (), s') →
      s'.tree.contents? path = some p.render.toUTF8 ∧ s'.tree.exists? (sidePath path) = false) ∧
    (s.tree.straight path = true →
      (∀ cause s', save Sandbox.host path p s = (.error cause, s') →
        s'.tree.contents? path = s.tree.contents? path) ∧
      ∀ s', BrokenOff (p.saveSteps path) s s' →
        s'.tree.contents? path = s.tree.contents? path) := by
  refine ⟨⟨same_sidePath_eq_false hname, fun t place side hplace hside => ?_⟩,
    fun s' hsaved => contents?_of_saved hname ht hsaved, fun hstraight => ⟨?_, ?_⟩⟩
  · exact (ne_of_sidePath hname hplace hside).symm
  · intro cause s' hfailed
    exact contents?_of_brokenOff hname ht hstraight (brokenOff_of_failed hfailed)
  · intro s' hbroken
    exact contents?_of_brokenOff hname ht hstraight hbroken

/-- Stored progress beside which no file can be written: a directory has the side file's name. -/
def blocked : Sandbox where
  tree :=
    { entries := [(["b.toml"], .file 0 "old".toUTF8), (["b.toml.tmp"], .directory)]
      workingDir := []
      nextIdentity := 1
      executable := [] }
  locks := []
  nextLock := 0
  clock := default

/-- A save that fails leaves what was stored, and one in a new directory is done. -/
theorem save_replaces_or_leaves_blocked :
    blocked.tree.Grounded ∧
    (∃ cause s', save Sandbox.host ⟨"/b.toml"⟩ fresh blocked = (.error cause, s') ∧
      s'.tree.contents? ⟨"/b.toml"⟩ = some "old".toUTF8) ∧
    ∃ s', save Sandbox.host ⟨"/k/b.toml"⟩ fresh blocked = (.ok (), s') ∧
      s'.tree.contents? ⟨"/k/b.toml"⟩ = some fresh.render.toUTF8 := by
  have ht : blocked.tree.Grounded := by decide +kernel
  have hname : Path.fileName? ⟨"/b.toml"⟩ = some "b.toml" := by decide +kernel
  have hname' : Path.fileName? ⟨"/k/b.toml"⟩ = some "b.toml" := by decide +kernel
  have hold : blocked.tree.contents? ⟨"/b.toml"⟩ = some "old".toUTF8 := by decide +kernel
  refine ⟨ht, ?_, ?_⟩
  · have hfails : (save Sandbox.host ⟨"/b.toml"⟩ fresh blocked).1.isOk = false := by decide +kernel
    rcases hsave : save Sandbox.host ⟨"/b.toml"⟩ fresh blocked with ⟨cause | _, s'⟩
    · have hlaw := save_replaces_or_leaves hname ht fresh
      refine ⟨cause, s', rfl, ?_⟩
      rw [(hlaw.2.2 (straight_of_contents? hold)).1 cause s' hsave, hold]
    · rw [hsave] at hfails
      cases hfails
  · have hdone : (save Sandbox.host ⟨"/k/b.toml"⟩ fresh blocked).1.isOk = true := by decide +kernel
    rcases hsave : save Sandbox.host ⟨"/k/b.toml"⟩ fresh blocked with ⟨_ | ⟨⟩, s'⟩
    · rw [hsave] at hdone
      cases hdone
    · exact ⟨s', rfl, ((save_replaces_or_leaves hname' ht fresh).2.1 s' hsave).1⟩

/--
A path that is not straight: the file it leads to was there all the time, but no path through `x`
led anywhere until the save that failed had made `x`.
-/
theorem save_uncovers :
    Path.fileName? ⟨"/x/../b.toml"⟩ = some "b.toml" ∧ blocked.tree.Grounded ∧
    ∃ cause s', save Sandbox.host ⟨"/x/../b.toml"⟩ fresh blocked = (.error cause, s') ∧
      blocked.tree.contents? ⟨"/x/../b.toml"⟩ = none ∧
      s'.tree.contents? ⟨"/x/../b.toml"⟩ = some "old".toUTF8 := by
  refine ⟨by decide +kernel, by decide +kernel, ?_⟩
  have hfails : (save Sandbox.host ⟨"/x/../b.toml"⟩ fresh blocked).1.isOk = false := by
    decide +kernel
  have hnew : (save Sandbox.host ⟨"/x/../b.toml"⟩ fresh blocked).2.tree.contents?
      ⟨"/x/../b.toml"⟩ = some "old".toUTF8 := by
    decide +kernel
  rcases hsave : save Sandbox.host ⟨"/x/../b.toml"⟩ fresh blocked with ⟨cause | _, s'⟩
  · rw [hsave] at hnew
    exact ⟨cause, s', rfl, by decide +kernel, hnew⟩
  · rw [hsave] at hfails
    cases hfails

end Progress
end Trainer
