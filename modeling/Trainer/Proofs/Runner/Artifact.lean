import Mathlib
import Trainer.Runner
import Trainer.Catalog.Discovery
import Trainer.Proofs.Exercise.Rules
import Trainer.Proofs.Path.Parent

/-!
# Where built programs are put

The built program of an exercise has the exercise's name, in the directory of built programs.  The
check of names lets through what can be the name of a file, and the single dot.  So a built program
is a child of the directory exactly when its exercise is not called `.` (`artifact_isChild_iff`).
The program of the exercise with that name is the directory itself (`dot_is_artifactDir`).
-/

namespace Trainer

open Trainer.Path

/-- A name that is allowed is that of a file, or the dot. -/
theorem Metadata.NameAllowed.isName {n : String} (h : NameAllowed n) (hdot : n ≠ ".") :
    IsName n := by
  refine ⟨h.slash, h.ne_empty, hdot, ?_⟩
  rintro rfl
  exact h.dots (List.infix_refl _)

namespace Path

variable {dir : Path}

theorem components_join_dot (h : dir.text ≠ "") : (dir.join ".").components = dir.components := by
  have hparts : parts ".".toList = [] := rfl
  rw [components_join_of_ne_empty (by decide) h, hparts, List.map_nil, List.append_nil]

/-- No path ends in a dot as a name. -/
theorem not_isChild_dot (dir p : Path) : ¬ IsChild dir "." p := by
  intro h
  exact (isName_of_fileName? h.fileName).ne_dot rfl

/-- A directory is no child of itself. -/
theorem not_same_join_dot {n : String} (h : IsName n) (dir : Path) :
    (dir.join ".").components ≠ (dir.join n).components := by
  rw [components_join_name h]
  intro hsame
  by_cases hempty : dir.text = ""
  · -- What is joined to an empty text is the dot in front of a relative path.
    obtain rfl : dir = ⟨""⟩ := congrArg Path.mk hempty
    have hdot : (Path.mk "" |>.join ".").components = [.current] := by decide +kernel
    rw [hdot] at hsame
    cases hsame
  · rw [components_join_dot hempty] at hsame
    simpa using congrArg List.length hsame

/-- Names that are allowed lead to different paths. -/
theorem join_inj {n n' : String} (h : Metadata.NameAllowed n) (h' : Metadata.NameAllowed n')
    (hsame : (dir.join n).same (dir.join n') = true) : n = n' := by
  by_cases hdot : n = "."
  · by_cases hdot' : n' = "."
    · rw [hdot, hdot']
    · rw [hdot] at hsame
      exact absurd (beq_iff_eq.1 hsame) (not_same_join_dot (h'.isName hdot') dir)
  · by_cases hdot' : n' = "."
    · rw [hdot'] at hsame
      exact absurd (beq_iff_eq.1 hsame).symm (not_same_join_dot (h.isName hdot) dir)
    · have hname := fileName?_congr hsame
      rw [fileName?_join (h.isName hdot), fileName?_join (h'.isName hdot')] at hname
      exact Option.some.inj hname

end Path

namespace Runner

open Catalog

/--
The built program of an exercise is a child of the directory of built programs, with the name of the
exercise, unless that name is a dot.  Exercises with different names have different built programs.
-/
theorem artifact_isChild_iff (r : Runner) (root : Path) (paths : CatalogPaths) {content : String}
    {path : Path} {m : Metadata} (h : Metadata.parse content path = .ok m) (v : Validation) :
    (IsChild r.artifactDir (Text.trim m.name)
        (r.artifactPath (exerciseOf root paths path m v)) ↔ Text.trim m.name ≠ ".") ∧
      (Text.trim m.name = "." → r.artifactDir.text ≠ "" →
        (r.artifactPath (exerciseOf root paths path m v)).same r.artifactDir = true) ∧
      ∀ (content' : String) (path' : Path) (m' : Metadata) (v' : Validation),
        Metadata.parse content' path' = .ok m' → Text.trim m.name ≠ Text.trim m'.name →
          (r.artifactPath (exerciseOf root paths path m v)).same
            (r.artifactPath (exerciseOf root paths path' m' v')) = false := by
  have hallowed : Metadata.NameAllowed (Text.trim m.name) := (Metadata.parse_eq_ok_iff.1 h).2 .name
  refine ⟨⟨?_, ?_⟩, ?_, ?_⟩
  · intro hchild hdot
    rw [hdot] at hchild
    exact not_isChild_dot _ _ hchild
  · intro hdot
    exact isChild_join (hallowed.isName hdot) r.artifactDir
  · intro hdot hdir
    have hcomponents := components_join_dot hdir
    rw [← hdot] at hcomponents
    exact beq_iff_eq.2 hcomponents
  · intro content' path' m' v' h' hne
    have hallowed' : Metadata.NameAllowed (Text.trim m'.name) :=
      (Metadata.parse_eq_ok_iff.1 h').2 .name
    rw [Bool.eq_false_iff]
    intro hsame
    exact hne (join_inj hallowed hallowed' hsame)

/-! ## Two names -/

/-- A document for an exercise of a name that only has to be built. -/
def namedText (name : String) : String :=
  "[exercise]\nname = \"" ++ name ++ "\"\n\n[description]\ntitle = \"T\"\n\n" ++
    "[validation]\nmode = \"build\"\n\n[hints]\nlevel_1 = \"h\"\n"

def named (name : String) : Metadata where
  name := name
  category := none
  difficulty := 1
  estimatedTime := none
  toolchainVersion := none
  title := "T"
  summary := ""
  objectives := []
  mode := "build"
  timeout := none
  expectedOutput := none
  staticCheckId := none
  requiredFiles := []
  hints := ⟨"h", none, none⟩

/-- The runner of a project without a configuration file. -/
def plainRunner : Runner :=
  .ofConfig (.standard ⟨"/kata"⟩) .empty

def namedExercise (name : String) : Exercise :=
  exerciseOf ⟨"/kata/exercises"⟩ (.ofConfig (.standard ⟨"/kata"⟩)) ⟨"/kata/exercises/a.toml"⟩
    (named name) ⟨.build, none, []⟩

theorem parse_named_hello :
    Metadata.parse (namedText "hello") ⟨"/kata/exercises/a.toml"⟩ = .ok (named "hello") := by
  decide +kernel

theorem parse_named_dot :
    Metadata.parse (namedText ".") ⟨"/kata/exercises/a.toml"⟩ = .ok (named ".") := by
  decide +kernel

theorem artifact_isChild_iff_hello :
    Metadata.parse (namedText "hello") ⟨"/kata/exercises/a.toml"⟩ = .ok (named "hello") ∧
      IsChild plainRunner.artifactDir "hello" (plainRunner.artifactPath (namedExercise "hello")) ∧
      (plainRunner.artifactPath (namedExercise "hello")).same
        (plainRunner.artifactPath (namedExercise ".")) = false := by
  obtain ⟨hchild, -, hapart⟩ := artifact_isChild_iff plainRunner ⟨"/kata/exercises"⟩
    (.ofConfig (.standard ⟨"/kata"⟩)) parse_named_hello ⟨.build, none, []⟩
  exact ⟨parse_named_hello, hchild.2 (by decide), hapart _ _ _ _ parse_named_dot (by decide)⟩

/-- The name that is no name of a file is accepted, and its built program is the directory. -/
theorem dot_is_artifactDir :
    Metadata.parse (namedText ".") ⟨"/kata/exercises/a.toml"⟩ = .ok (named ".") ∧
      (namedExercise ".").name = "." ∧
      (plainRunner.artifactPath (namedExercise ".")).same plainRunner.artifactDir = true ∧
      ¬ IsChild plainRunner.artifactDir "." (plainRunner.artifactPath (namedExercise ".")) :=
  ⟨parse_named_dot, by decide, by decide +kernel, not_isChild_dot _ _⟩

end Runner
end Trainer
