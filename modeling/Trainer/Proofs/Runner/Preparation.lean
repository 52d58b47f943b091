import Mathlib
import Trainer.Sandbox
import Trainer.Proofs.FileTree.Digging
import Trainer.Proofs.Progress.Replacement
import Trainer.Proofs.Runner.Success
import Trainer.Proofs.Text.Replacing

/-!
# Preparing a run

Before a run the directory of built programs is made, and the toolchain's file in the directory of
the exercise.  Whether or not this succeeds, all that was in the tree stays there, and nothing is
added but directories on the way to that directory, and that file (`Adds`).

When it has succeeded, both are in place (`InPlace`), and a preparation that finds them in place does
nothing at all (`prepare_of_inPlace`).  It looks for the file and not at its contents, so it makes no
difference which exercise of the directory is prepared, and whether the learner has written to the
file since (`InPlace.edited`).
-/

namespace Trainer

namespace Runner

open FileTree

variable {r : Runner} {e e' : Exercise} {dir : Path} {t t' : FileTree} {s s' : Sandbox}

/-! ## What is added -/

/-- What a preparation may do to a tree: it adds directories on the way, and a file. -/
structure Adds (r : Runner) (e : Exercise) (t t' : FileTree) : Prop where
  kept (names : List String) (x : Entry) : t.get? names = some x → t'.get? names = some x
  executable : t'.executable = t.executable
  workingDir : t'.workingDir = t.workingDir
  added (names : List String) (x : Entry) : t'.get? names = some x → t.get? names = none →
    (x = .directory ∧ ∃ q, r.artifactDir.Above q ∧ t'.resolve q = .ok names) ∨
    ∃ file i text, r.toolchain.scaffold = some file ∧
      t'.resolve (e.dir.join file.file) = .ok names ∧ x = .file i text.toUTF8 ∧
      Text.Replaced "\x7bname\x7d" e.name file.contents text

/-- Digging the directory for artifacts adds that directory and those above it. -/
theorem adds_of_dug (h : Dug r.artifactDir t t') : Adds r e t t' where
  kept := h.grows.kept
  executable := h.executable_eq
  workingDir := h.grows.workingDir
  added _ _ hthere hnew := .inl (h.added hthere hnew)

/-- The toolchain's file is written where nothing is. -/
theorem Adds.write (h : Adds r e t t') {file : Scaffold} {t'' : FileTree}
    (hfile : r.toolchain.scaffold = some file)
    (hnew : t'.exists? (e.dir.join file.file) = false)
    (hwrite : t'.writeText (e.dir.join file.file) (Toolchain.scaffoldContents file e.name) =
      .ok t'') : Adds r e t t'' := by
  obtain ⟨place, hresolve, hwritten⟩ := written_of_eq hwrite
  have hkeeps := hwritten.keepsDirectories
  have hfree : t'.get? place = none := by
    by_contra hthere
    obtain ⟨x, hx⟩ := Option.ne_none_iff_exists'.1 hthere
    rw [exists?_eq_true_iff.2 ⟨place, x, hresolve, hx⟩] at hnew
    cases hnew
  refine ⟨fun names x hx => ?_, (executable_of_writeBytes hwrite).trans h.executable,
    hwritten.workingDir.trans h.workingDir, fun names x hthere hnone => ?_⟩
  · -- The place of the new file was free, so an old entry is elsewhere.
    have hkept := h.kept names x hx
    rw [hwritten.elsewhere names ?_, hkept]
    rintro rfl
    rw [hfree] at hkept
    cases hkept
  · by_cases hplace : names = place
    · subst hplace
      obtain ⟨i, hi⟩ := hwritten.file
      rw [hi] at hthere
      cases hthere
      exact .inr ⟨file, i, _, hfile, hkeeps.resolve hresolve, rfl,
        Text.replaced_replaceAll (by decide) _ _⟩
    · -- What is there beside the new file was there before it was written.
      rw [hwritten.elsewhere names hplace] at hthere
      rcases h.added names x hthere hnone with ⟨hdir, q, hq, hq'⟩ | ⟨_, i, text, hfile', hq, hx⟩
      · exact .inl ⟨hdir, q, hq, hkeeps.resolve hq'⟩
      · exact .inr ⟨_, i, text, hfile', hkeeps.resolve hq, hx⟩

/-! ## The toolchain's file -/

/-- The endings of making the toolchain's file. -/
inductive Scaffolded (r : Runner) (e : Exercise) (s : Sandbox) :
    Except Failure Bool → Sandbox → Prop where
  | unwanted : r.toolchain.scaffold = none → Scaffolded r e s (.ok false) s
  | there {file : Scaffold} : r.toolchain.scaffold = some file →
      s.tree.exists? (e.dir.join file.file) = true → Scaffolded r e s (.ok false) s
  | written {file : Scaffold} {tree : FileTree} : r.toolchain.scaffold = some file →
      s.tree.exists? (e.dir.join file.file) = false →
      s.tree.writeText (e.dir.join file.file) (Toolchain.scaffoldContents file e.name) =
        .ok tree → Scaffolded r e s (.ok true) { s with tree }
  | refused {failure : Failure} : Scaffolded r e s (.error failure) s

/-- The scaffold step comes to one of the cases of `Scaffolded`. -/
theorem scaffolded_of_eq {answer : Except Failure Bool}
    (h : scaffold Sandbox.host r.toolchain e.dir e.name s = (answer, s')) :
    Scaffolded r e s answer s' := by
  unfold scaffold at h
  split at h
  · rename_i hnone
    cases h
    exact .unwanted hnone
  · rename_i file hfile
    simp only [Sandbox.exists?_host] at h
    split at h
    · rename_i hthere
      cases h
      exact .there hfile hthere
    · rename_i habsent
      split at h
      · rename_i hwrite
        cases h
        rcases Sandbox.writeText_host hwrite with ⟨tree, htree, -, rfl⟩ | ⟨_, hno, -⟩
        · exact .written hfile (Bool.eq_false_of_not_eq_true habsent) htree
        · cases hno
      · rename_i hwrite
        cases h
        rcases Sandbox.writeText_host hwrite with ⟨_, -, hno, -⟩ | ⟨_, -, rfl⟩
        · cases hno
        · exact .refused

/-! ## What is in place -/

/-- The directory of built programs is there, and the toolchain's file if there is to be one. -/
structure InPlace (r : Runner) (dir : Path) (t : FileTree) : Prop where
  artifactDir : r.artifactDir.text = "" ∨ t.isDirectory r.artifactDir = true
  scaffold (file : Scaffold) : r.toolchain.scaffold = some file →
    t.exists? (dir.join file.file) = true

/-- Where the directory and the scaffold file are there, all is in place. -/
theorem InPlace.of_scaffold {file : Scaffold} (hfile : r.toolchain.scaffold = some file)
    (hdir : r.artifactDir.text = "" ∨ t.isDirectory r.artifactDir = true)
    (hthere : t.exists? (dir.join file.file) = true) : InPlace r dir t := by
  refine ⟨hdir, fun file' hfile' => ?_⟩
  cases hfile.symm.trans hfile'
  exact hthere

/-- The learner has written to the toolchain's file, any number of times. -/
inductive Edited (r : Runner) (dir : Path) : FileTree → FileTree → Prop where
  | never {t : FileTree} : Edited r dir t t
  | write {t t' t'' : FileTree} {file : Scaffold} {bytes : ByteArray} : Edited r dir t t' →
      r.toolchain.scaffold = some file → t'.writeBytes (dir.join file.file) bytes = .ok t'' →
      Edited r dir t t''

theorem exists?_of_writeBytes {p : Path} {bytes : ByteArray} (h : t.writeBytes p bytes = .ok t') :
    t'.exists? p = true := by
  obtain ⟨names, hresolve, hwritten⟩ := written_of_eq h
  obtain ⟨i, hi⟩ := hwritten.file
  exact exists?_eq_true_iff.2 ⟨names, _, hwritten.keepsDirectories.resolve hresolve, hi⟩

/-- An edit of the scaffold file leaves it in place. -/
theorem InPlace.edited (h : InPlace r dir t) (hedited : Edited r dir t t') : InPlace r dir t' := by
  induction hedited with
  | never => exact h
  | write _ hfile hwrite ih =>
      obtain ⟨_, -, hwritten⟩ := written_of_eq hwrite
      exact .of_scaffold hfile
        (ih.artifactDir.imp_right hwritten.keepsDirectories.isDirectory)
        (exists?_of_writeBytes hwrite)

/-- A preparation that finds everything in place does nothing. -/
theorem prepare_of_inPlace (h : InPlace r e.dir s.tree) :
    prepare Sandbox.host r e s = (.ok (), s) ∧
      scaffold Sandbox.host r.toolchain e.dir e.name s = (.ok false, s) := by
  have hdirs : Sandbox.host.makeDirs r.artifactDir s = (.ok (), s) := by
    simp only [Sandbox.host, Sandbox.makeDirs, dig_of_isDirectory h.artifactDir]
  have hscaffold : scaffold Sandbox.host r.toolchain e.dir e.name s = (.ok false, s) := by
    unfold scaffold
    cases hfile : r.toolchain.scaffold with
    | none => rfl
    | some file => simp only [Sandbox.exists?_host, h.scaffold file hfile, if_true]
  refine ⟨?_, hscaffold⟩
  simp only [prepare, hdirs, hscaffold]

/-! ## The preparation -/

/-- A preparation changes nothing but the tree, and adds there what it may add. -/
theorem adds_of_prepare {answer : Except Failure Unit}
    (h : prepare Sandbox.host r e s = (answer, s')) :
    Adds r e s.tree s'.tree ∧ s' = { s with tree := s'.tree } ∧
      (answer = .ok () → InPlace r e.dir s'.tree) := by
  unfold prepare at h
  rcases hmake : Sandbox.host.makeDirs r.artifactDir s with ⟨made, s₁⟩
  obtain ⟨tree, hdig, rfl⟩ := Sandbox.makeDirs_host hmake
  have hadds : Adds r e s.tree tree := by
    have hdug := dig_dug s.tree r.artifactDir
    rw [hdig] at hdug
    exact adds_of_dug hdug
  rw [hmake] at h
  cases made with
  | error cause =>
      -- Some directories may have been made before the one that could not be.
      cases h
      exact ⟨hadds, rfl, nofun⟩
  | ok _ =>
      have hdir : r.artifactDir.text = "" ∨ tree.isDirectory r.artifactDir = true :=
        (em _).imp_right (isDirectory_of_dig hdig)
      rcases hmade : scaffold Sandbox.host r.toolchain e.dir e.name { s with tree }
        with ⟨outcome, s₂⟩
      simp only [hmade] at h
      cases scaffolded_of_eq hmade with
      | unwanted hnone =>
          cases h
          refine ⟨hadds, rfl, fun _ => ⟨hdir, fun file hfile => ?_⟩⟩
          cases hnone.symm.trans hfile
      | there hfile hthere =>
          cases h
          exact ⟨hadds, rfl, fun _ => .of_scaffold hfile hdir hthere⟩
      | written hfile hnew hwrite =>
          cases h
          obtain ⟨_, -, hwritten⟩ := written_of_eq hwrite
          exact ⟨hadds.write hfile hnew hwrite, rfl, fun _ => .of_scaffold hfile
            (hdir.imp_right hwritten.keepsDirectories.isDirectory) (exists?_of_writeBytes hwrite)⟩
      | refused =>
          cases h
          exact ⟨hadds, rfl, nofun⟩

/--
Preparing a run changes nothing but the tree.  There it keeps every entry, and adds at most the
directory of built programs with missing ones above it, and the toolchain's file with the name of the
exercise filled in; also when it fails.  When it succeeds, all is in place, and preparing the run of
any exercise of the directory finds the file and changes nothing, even if the learner has written to
the file since.
-/
theorem prepare_adds_once {answer : Except Failure Unit}
    (h : prepare Sandbox.host r e s = (answer, s')) :
    (Adds r e s.tree s'.tree ∧ s' = { s with tree := s'.tree }) ∧
    (answer = .ok () → InPlace r e.dir s'.tree ∧
      ∀ (s'' : Sandbox) (e' : Exercise), Edited r e.dir s'.tree s''.tree → e'.dir = e.dir →
        prepare Sandbox.host r e' s'' = (.ok (), s'') ∧
        scaffold Sandbox.host r.toolchain e'.dir e'.name s'' = (.ok false, s'')) := by
  obtain ⟨hadds, hsame, hplace⟩ := adds_of_prepare h
  refine ⟨⟨hadds, hsame⟩, fun hok => ⟨hplace hok, fun s'' e' hedited hdir => ?_⟩⟩
  refine prepare_of_inPlace ?_
  rw [hdir]
  exact (hplace hok).edited hedited

/-! ## A project without the directory -/

/-- A machine with an exercise and nothing else. -/
def bareSandbox : Sandbox :=
  .ofTree
    { entries := [
        (["kata", "hello", "hello.go"], .file 0 "package main\n".toUTF8),
        (["kata", "hello"], .directory), (["kata"], .directory)]
      workingDir := []
      nextIdentity := 1
      executable := [] }
    default

/-- A runner that puts built programs two levels below the project. -/
def bareRunner : Runner where
  toolchain := Toolchain.standard
  checks := default
  defaultTimeout := Duration.zero
  artifactDir := ⟨"/kata/.kata/artifacts"⟩

def bareExercise (name : String) : Exercise :=
  { (default : Exercise) with name, sourcePath := ⟨"/kata/hello/hello.go"⟩ }

/-- The machine when the run of one exercise has been prepared there. -/
def bareReady : Sandbox :=
  (prepare Sandbox.host bareRunner (bareExercise "hello") bareSandbox).2

/-- The file was not there and is made; for another exercise of the directory it is found. -/
theorem prepare_adds_once_bare :
    bareSandbox.tree.exists? ⟨"/kata/hello/go.mod"⟩ = false ∧
    Adds bareRunner (bareExercise "hello") bareSandbox.tree bareReady.tree ∧
    bareReady.tree.exists? ⟨"/kata/hello/go.mod"⟩ = true ∧
    prepare Sandbox.host bareRunner (bareExercise "other") bareReady = (.ok (), bareReady) := by
  obtain ⟨hbefore, hok, hpath, hdir⟩ :
      bareSandbox.tree.exists? ⟨"/kata/hello/go.mod"⟩ = false ∧
      (prepare Sandbox.host bareRunner (bareExercise "hello") bareSandbox).1.isOk = true ∧
      (bareExercise "hello").dir.join "go.mod" = ⟨"/kata/hello/go.mod"⟩ ∧
      (bareExercise "other").dir = (bareExercise "hello").dir := by decide +kernel
  rcases hprepare : prepare Sandbox.host bareRunner (bareExercise "hello") bareSandbox
    with ⟨_ | ⟨⟩, s'⟩
  · rw [hprepare] at hok
    cases hok
  obtain rfl : bareReady = s' := congrArg Prod.snd hprepare
  obtain ⟨⟨hadds, -⟩, hready⟩ := prepare_adds_once hprepare
  obtain ⟨hplace, hagain⟩ := hready rfl
  refine ⟨hbefore, hadds, ?_, (hagain bareReady (bareExercise "other") .never hdir).1⟩
  rw [← hpath]
  exact hplace.scaffold _ rfl

end Runner
end Trainer
