import Mathlib
import Trainer.Proofs.Catalog.Source
import Trainer.Proofs.Progress.Shelf

/-!
# The metadata files of a tree

The exercises directory is a directory tree: its canonical path is a list of names, and the host
lists every file below it once, in any order (`Rooted`).  Of these the metadata files are those
whose names end in `.toml`, but for the toolchain's own file.  In increasing order of the names that
lead to them they are one list (`IsListing`, `IsListing.unique`), and a load goes through this list
in whatever order the host lists its files (`Rooted.exists_listing`).
-/

namespace Trainer
namespace Catalog

variable {σ : Type} {host : Host σ} {paths : CatalogPaths} {root : List String} {s : σ}
variable {F : List (List String)} {rel : List String}

/-! ## The metadata files of a tree -/

/-- A machine on which the exercises directory is a directory tree that can be listed. -/
structure Rooted (host : Host σ) (paths : CatalogPaths) (root : List String) (s : σ) : Prop where
  isName : ∀ n ∈ root, Path.IsName n
  isDirectory : host.isDirectory paths.exercisesDir s = true
  canonical : host.canonical paths.exercisesDir s = .ok (Path.ofNames root)
  /-- Every file is listed once, in any order. -/
  nodup : (host.filesBelow (Path.ofNames root) s).Nodup
  mem_iff (p : Path) : p ∈ host.filesBelow (Path.ofNames root) s ↔
    ∃ rel, rel ≠ [] ∧ (∀ n ∈ rel, Path.IsName n) ∧ p = fileAt root rel ∧ host.isFile p s = true

/-- The metadata files below the root, in increasing order. -/
structure IsListing (host : Host σ) (scaffoldFile : Option String) (root : List String) (s : σ)
    (F : List (List String)) : Prop where
  increasing : F.Pairwise (· < ·)
  mem_iff (rel : List String) : rel ∈ F ↔ host.isFile (fileAt root rel) s = true ∧
    ∃ folders base, IsPlace folders base ∧ rel = folders ++ [base ++ ".toml"] ∧
      ∀ f, scaffoldFile = some f → Path.fileName? ⟨f⟩ ≠ some (base ++ ".toml")

theorem IsListing.unique {scaffoldFile : Option String} {G : List (List String)}
    (hF : IsListing host scaffoldFile root s F) (hG : IsListing host scaffoldFile root s G) :
    G = F :=
  hG.increasing.eq_of_mem_iff hF.increasing fun rel => by rw [hG.mem_iff, hF.mem_iff]

theorem endsWith_toml_iff (name : String) :
    Text.endsWith ".toml" name = true ↔ ∃ base, name = base ++ ".toml" := by
  rw [Text.endsWith, List.isSuffixOf_iff_suffix]
  constructor
  · rintro ⟨front, hfront⟩
    refine ⟨String.ofList front, String.toList_inj.1 ?_⟩
    rw [String.toList_append, String.toList_ofList, hfront]
  · rintro ⟨base, rfl⟩
    exact ⟨base.toList, (String.toList_append).symm⟩

end Catalog
end Trainer
