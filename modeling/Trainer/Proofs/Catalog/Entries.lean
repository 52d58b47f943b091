import Mathlib
import Trainer.Catalog.Discovery

/-!
# Files that are taken and files that are refused

A catalog is loaded file by file.  A file is refused when it cannot be used by itself, or when a
file before it that can be used has its name (`Refused`).  The loop keeps the exercises so far and
the failures so far; for files in increasing order they are those of the files that are not refused
and those of the files that are (`sifted_loadEntries`), in the order of the files.
-/

namespace Trainer
namespace Catalog

variable {α : Type} {path : α → Path} {load : Path → Except EntryFailure Exercise}

/-! ## The loop -/

/-- The name of the exercise that a file makes up, if it can be used. -/
def nameAt (load : Path → Except EntryFailure Exercise) (p : Path) : Option String :=
  (load p).toOption.map (·.name)

theorem nameAt_of_ok {p : Path} {e : Exercise} (h : load p = .ok e) :
    nameAt load p = some e.name := by
  rw [nameAt, h]
  rfl

variable [LinearOrder α]

/-- A file is refused unless it has a name that no usable file before it has. -/
def Refused (load : Path → Except EntryFailure Exercise) (path : α → Path) (l : List α) (x : α) :
    Prop :=
  ∀ n, nameAt load (path x) = some n → ∃ y ∈ l, y < x ∧ nameAt load (path y) = some n

/-- The failure that a file is refused with. -/
def Explains (load : Path → Except EntryFailure Exercise) (p : Path) (f : EntryFailure) : Prop :=
  load p = .error f ∨ ∃ e, load p = .ok e ∧ f = .duplicateName p e.name

open Classical in
/-- What the loop has gathered when it has gone through some files. -/
structure Sifted (load : Path → Except EntryFailure Exercise) (path : α → Path) (l : List α)
    (exercises : List Exercise) (failures : List EntryFailure) : Prop where
  /-- The names that are taken are those of the files that can be used. -/
  names (n : String) : n ∈ exercises.map (·.name) ↔ ∃ x ∈ l, nameAt load (path x) = some n
  kept : List.Forall₂ (fun x e => load (path x) = .ok e)
    (l.filter fun x => ¬Refused load path l x) exercises
  refused : List.Forall₂ (fun x f => Explains load (path x) f)
    (l.filter fun x => Refused load path l x) failures

/-- A file at the end does not change what is refused up to it. -/
theorem refused_concat {l : List α} {x z : α} (hx : x ≤ z) :
    Refused load path (l ++ [z]) x ↔ Refused load path l x := by
  refine forall₂_congr fun n _ => ?_
  constructor
  · rintro ⟨y, hy, hlt, hname⟩
    rcases List.mem_append.1 hy with hy | hy
    · exact ⟨y, hy, hlt, hname⟩
    · rw [List.mem_singleton.1 hy] at hlt
      exact absurd hx (not_le.2 hlt)
  · rintro ⟨y, hy, hlt, hname⟩
    exact ⟨y, List.mem_append_left _ hy, hlt, hname⟩

open Classical in
/-- One more file, behind all the others, changes nothing about whether they are refused. -/
theorem filter_refused_concat {l : List α} {z : α} (hl : ∀ y ∈ l, y < z) :
    (l ++ [z]).filter (fun x => Refused load path (l ++ [z]) x) =
      l.filter (fun x => Refused load path l x) ++
        if Refused load path l z then [z] else [] := by
  have hfilter : l.filter (fun x => Refused load path (l ++ [z]) x) =
      l.filter (fun x => Refused load path l x) :=
    List.filter_congr fun x hx => by rw [refused_concat (hl x hx).le]
  rw [List.filter_append, hfilter, List.filter_singleton, refused_concat le_rfl]
  simp

open Classical in
/-- One more file, behind all the others, changes nothing about whether they are kept. -/
theorem filter_kept_concat {l : List α} {z : α} (hl : ∀ y ∈ l, y < z) :
    (l ++ [z]).filter (fun x => ¬Refused load path (l ++ [z]) x) =
      l.filter (fun x => ¬Refused load path l x) ++
        if Refused load path l z then [] else [z] := by
  have hfilter : l.filter (fun x => ¬Refused load path (l ++ [z]) x) =
      l.filter (fun x => ¬Refused load path l x) :=
    List.filter_congr fun x hx => by rw [refused_concat (hl x hx).le]
  rw [List.filter_append, hfilter, List.filter_singleton, refused_concat le_rfl]
  by_cases hz : Refused load path l z <;> simp [hz]

variable {l : List α} {z : α} {exercises : List Exercise} {failures : List EntryFailure}

/-- A file that is refused adds a failure. -/
theorem Sifted.refuse (h : Sifted load path l exercises failures) (hl : ∀ y ∈ l, y < z)
    (hz : Refused load path l z) {f : EntryFailure} (hf : Explains load (path z) f) :
    Sifted load path (l ++ [z]) exercises (failures ++ [f]) where
  names n := by
    rw [h.names]
    constructor
    · rintro ⟨x, hx, hname⟩
      exact ⟨x, List.mem_append_left _ hx, hname⟩
    · rintro ⟨x, hx, hname⟩
      rcases List.mem_append.1 hx with hx | hx
      · exact ⟨x, hx, hname⟩
      · rw [List.mem_singleton.1 hx] at hname
        obtain ⟨y, hy, -, hy'⟩ := hz n hname
        exact ⟨y, hy, hy'⟩
  kept := by
    rw [filter_kept_concat hl, if_pos hz, List.append_nil]
    exact h.kept
  refused := by
    rw [filter_refused_concat hl, if_pos hz]
    exact List.rel_append h.refused (.cons hf .nil)

/-- A file that is not refused adds its exercise. -/
theorem Sifted.keep (h : Sifted load path l exercises failures) (hl : ∀ y ∈ l, y < z)
    (hz : ¬Refused load path l z) {e : Exercise} (he : load (path z) = .ok e) :
    Sifted load path (l ++ [z]) (exercises ++ [e]) failures where
  names n := by
    rw [List.map_append, List.mem_append, h.names, List.map_singleton, List.mem_singleton]
    constructor
    · rintro (⟨x, hx, hname⟩ | rfl)
      · exact ⟨x, List.mem_append_left _ hx, hname⟩
      · exact ⟨z, by simp, nameAt_of_ok he⟩
    · rintro ⟨x, hx, hname⟩
      rcases List.mem_append.1 hx with hx | hx
      · exact .inl ⟨x, hx, hname⟩
      · rw [List.mem_singleton.1 hx, nameAt_of_ok he, Option.some.injEq] at hname
        exact .inr hname.symm
  kept := by
    rw [filter_kept_concat hl, if_neg hz]
    exact List.rel_append h.kept (.cons he .nil)
  refused := by
    rw [filter_refused_concat hl, if_neg hz, List.append_nil]
    exact h.refused

end Catalog
end Trainer
