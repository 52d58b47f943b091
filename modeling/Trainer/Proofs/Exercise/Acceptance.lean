import Mathlib
import Trainer.Runner
import Trainer.Proofs.Catalog.Loading
import Trainer.Proofs.Config
import Trainer.Proofs.Exercise.Rules

/-!
# What the check of metadata is good for

The stages behind the check of a document do not check it again.  What they rely on is `Reliable`:
the settings can be read, a check id is a word, only the source can be missing, and no command is
given no time at all.  `accepted_iff_valid` says that exactly the valid documents are accepted, and
that all of this follows.

A time limit comes from the document or, without one there, from the configuration; neither lets a
limit of zero through.
-/

namespace Trainer
namespace Metadata

variable {content : String} {path : Path} {m : Metadata} {v : Validation}

/-- What is relied on once a document has been accepted. -/
structure Reliable (content : String) (path : Path) (m : Metadata) (v : Validation) : Prop where
  settings : m.validation = .ok v
  /-- A check id is there, without blanks around it. -/
  checkId : ∀ id, v.mode = .static id → id ≠ "" ∧ Text.trim id = id
  /-- The document makes up an exercise unless its source is missing. -/
  loads {σ : Type} (host : Host σ) (root : Path) (paths : CatalogPaths) (s : σ) :
    host.readText path s = .ok content →
      Catalog.loadEntry host root paths s path =
        if host.isFile (Catalog.exerciseOf root paths path m v).sourcePath s then
          .ok (Catalog.exerciseOf root paths path m v)
        else .error (.missingSource path (Catalog.exerciseOf root paths path m v).sourcePath)
  /-- The commands of the exercise have time, whatever is configured. -/
  timeout {σ : Type} (host : Host σ) (project : Path) (s : σ) (config : Config)
    (checks : CheckTable) (root : Path) (paths : CatalogPaths) (done : Bool) :
    Config.load host project s = .ok config →
      0 < ((Runner.ofConfig config checks).timeoutFor
        { Catalog.exerciseOf root paths path m v with completed := done }).nanos

/-- The id of a document that is accepted has something in it, and no blanks at its ends. -/
theorem Judges.checkId {id : String} (h : m.Judges (.static id)) : id ≠ "" ∧ Text.trim id = id := by
  cases h with
  | static _ _ hink => exact ⟨Text.trim_ne_empty_iff.2 hink, Text.trim_trim _⟩

/-- A limit that a document may ask for is some time, if the usual one is. -/
theorem Limits.pos {limit : Option Duration} (h : m.Limits limit) {usual : Duration}
    (husual : 0 < usual.nanos) : 0 < (limit.getD usual).nanos := by
  cases h with
  | unlimited _ => exact husual
  | limited _ _ hpos => exact hpos

/-- A document that was accepted gives an exercise, unless its source is missing. -/
theorem loadEntry_of_parse {σ : Type} {host : Host σ} {s : σ} (root : Path) (paths : CatalogPaths)
    (hread : host.readText path s = .ok content) (hparse : parse content path = .ok m)
    (hv : m.validation = .ok v) : Catalog.loadEntry host root paths s path =
      if host.isFile (Catalog.exerciseOf root paths path m v).sourcePath s then
        .ok (Catalog.exerciseOf root paths path m v)
      else .error (.missingSource path (Catalog.exerciseOf root paths path m v).sourcePath) := by
  simp only [Catalog.loadEntry, hread, hparse, hv]

/-- An accepted document can be relied on. -/
theorem reliable_of_parse (h : parse content path = .ok m) :
    ∃ v, Reliable content path m v := by
  obtain ⟨v, hv⟩ := exists_validation_of_parse h
  obtain ⟨hjudges, hlimits⟩ := of_validation_eq_ok hv
  refine ⟨v, hv, fun id hmode => ?_, fun host root paths s hread => ?_, ?_⟩
  · rw [hmode] at hjudges
    exact hjudges.checkId
  · exact loadEntry_of_parse root paths hread h hv
  · intro σ host project s config checks root paths done hconfig
    exact hlimits.pos (Config.sound_of_load hconfig).defaultTimeout

/--
A document is accepted exactly when it decodes and keeps all rules, and the stages behind the check
can rely on a document that was accepted.  Time limits of more seconds than fit in 64 bits are left
aside (`Duration.TimeUnit.times`).
-/
theorem accepted_iff_valid (content : String) (path : Path) (m : Metadata) :
    (parse content path = .ok m ↔
      Toml.decode decode content = some m ∧ ∀ rule : Rule, rule.Met m) ∧
    (parse content path = .ok m → ∃ v, Reliable content path m v) := by
  constructor
  · exact parse_eq_ok_iff
  · exact reliable_of_parse

/-! ## A document with blanks around its words -/

def loopsText : String :=
  "[exercise]\nname = \" loops \"\ndifficulty = 3\n\n[description]\ntitle = \"Loops\"\n\n" ++
    "[validation]\nmode = \" Static \"\nstatic_check_id = \" no-goto \"\ntimeout = \" 2 m \"\n\n" ++
    "[hints]\nlevel_1 = \"Recurse.\"\n"

def loops : Metadata where
  name := " loops "
  category := none
  difficulty := 3
  estimatedTime := none
  toolchainVersion := none
  title := "Loops"
  summary := ""
  objectives := []
  mode := " Static "
  timeout := some (.text " 2 m ")
  expectedOutput := none
  staticCheckId := some " no-goto "
  requiredFiles := []
  hints := ⟨"Recurse.", none, none⟩

def loopsShelf : Shelf where
  directories := [⟨"/kata/exercises"⟩]
  files := [(⟨"/kata/exercises/loops.toml"⟩, loopsText), (⟨"/kata/exercises/loops.go"⟩, "")]
  full := false

def loopsHost : Host Shelf :=
  Shelf.host ⟨2024, 5, 17, 8, 30, 0, 0⟩

def loopsPaths : CatalogPaths :=
  .ofConfig (.standard ⟨"/kata"⟩)

def loopsExercise : Exercise :=
  Catalog.exerciseOf ⟨"/kata/exercises"⟩ loopsPaths ⟨"/kata/exercises/loops.toml"⟩ loops
    ⟨.static "no-goto", some (.ofSeconds 120), []⟩

theorem accepted_iff_valid_loops :
    parse loopsText ⟨"/kata/exercises/loops.toml"⟩ = .ok loops ∧ (∀ rule : Rule, rule.Met loops) ∧
      Catalog.loadEntry loopsHost ⟨"/kata/exercises"⟩ loopsPaths loopsShelf
        ⟨"/kata/exercises/loops.toml"⟩ = .ok loopsExercise ∧
      Config.load loopsHost ⟨"/kata"⟩ loopsShelf = .ok (.standard ⟨"/kata"⟩) ∧
      0 < ((Runner.ofConfig (.standard ⟨"/kata"⟩) .empty).timeoutFor loopsExercise).nanos := by
  obtain ⟨hiff, hreliable⟩ :=
    accepted_iff_valid loopsText ⟨"/kata/exercises/loops.toml"⟩ loops
  have hparse : parse loopsText ⟨"/kata/exercises/loops.toml"⟩ = .ok loops := by decide +kernel
  have hconfig : Config.load loopsHost ⟨"/kata"⟩ loopsShelf = .ok (.standard ⟨"/kata"⟩) := by
    decide +kernel
  obtain ⟨v, hv⟩ := hreliable hparse
  obtain rfl : v = ⟨.static "no-goto", some (.ofSeconds 120), []⟩ :=
    Except.ok.inj (hv.settings.symm.trans (by decide +kernel))
  refine ⟨hparse, (hiff.1 hparse).2, ?_, hconfig, ?_⟩
  · rw [hv.loads loopsHost _ loopsPaths loopsShelf (by decide +kernel), if_pos (by decide +kernel)]
    rfl
  · exact hv.timeout loopsHost ⟨"/kata"⟩ loopsShelf _ .empty ⟨"/kata/exercises"⟩ loopsPaths false
      hconfig

end Metadata
end Trainer
