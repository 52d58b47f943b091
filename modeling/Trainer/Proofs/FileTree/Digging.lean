import Mathlib
import Trainer.Proofs.FileTree.Changes

/-!
# Making directories

Making a directory makes those that it lies in as well, as far as they are missing.  What it adds
are directories, each at the place of the path or of one above it (`Dug.added`), also if it is broken
off.  When it succeeds there is a directory (`isDirectory_of_dig`), and making it once more adds
nothing (`dig_of_isDirectory`).

A new directory may be named with slashes at the end.  They are not followed to find its place, but
a path that has them leads to a directory only: so where a directory was made, the path leads there
(`resolve_of_newPlace`), and where a path leads to a directory, none can be made
(`newPlace_of_resolve`).
-/

namespace Trainer

namespace Path

/-- The paths above a path, and itself. -/
inductive Above : Path → Path → Prop where
  | self {p : Path} : Above p p
  | parent {p above q : Path} : p.parent? = some above → Above above q → Above p q

end Path

namespace FileTree

variable {t t' : FileTree} {p : Path} {place names : List String} {e : Entry}

/-! ## Slashes at the end -/

theorem exists_slashes (h : endsInSlash p = true) :
    ∃ k, p.text.toList = (withoutSlashes p).text.toList ++ '/' :: List.replicate k '/' := by
  have hcut := (List.takeWhile_append_dropWhile (p := (· == '/')) (l := p.text.toList.reverse))
  have hall : ∀ c ∈ p.text.toList.reverse.takeWhile (· == '/'), c = '/' := fun c hc => by
    simpa using List.mem_takeWhile_imp hc
  rw [List.eq_replicate_of_mem hall] at hcut
  -- The last character is a slash, so there is at least one.
  cases hn : (p.text.toList.reverse.takeWhile (· == '/')).length with
  | zero =>
      rw [endsInSlash, beq_iff_eq, ← List.head?_reverse] at h
      rw [List.length_eq_zero_iff, List.takeWhile_eq_nil_iff] at hn
      obtain ⟨rest, hrest⟩ := List.head?_eq_some_iff.1 h
      simp [hrest] at hn
  | succ k =>
      rw [hn] at hcut
      refine ⟨k, ?_⟩
      have hreversed := congrArg List.reverse hcut
      rw [List.reverse_append, List.reverse_reverse, List.reverse_replicate] at hreversed
      rw [← hreversed, withoutSlashes, String.toList_ofList, List.replicate_succ]

theorem splitAt_slashes (k : Nat) :
    Chars.splitAt '/' (List.replicate k '/') = List.replicate (k + 1) [] := by
  induction k with
  | zero => rfl
  | succ k ih => rw [List.replicate_succ, Chars.splitAt, if_pos rfl, ih, ← List.replicate_succ]

theorem exists_steps_slashes (h : endsInSlash p = true) :
    ∃ idle : List String, (∀ part ∈ idle, part = "") ∧ idle ≠ [] ∧
      p.steps = (withoutSlashes p).steps ++ idle := by
  obtain ⟨k, hk⟩ := exists_slashes h
  refine ⟨List.replicate (k + 1) "", fun part hpart => List.eq_of_mem_replicate hpart,
    by simp, ?_⟩
  rw [Path.steps, hk, Chars.splitAt_append_sep, splitAt_slashes, List.map_append,
    List.map_replicate]
  rfl

/-- From a directory, empty parts lead nowhere else. -/
theorem walk_empty {parts : List String} (hparts : ∀ part ∈ parts, part = "")
    (hdir : t.get? place = some .directory) : t.walk place parts = .ok place := by
  induction parts with
  | nil => rfl
  | cons part parts ih =>
      have hstep : t.step place part = .ok place := by
        simp only [step, hdir, hparts part List.mem_cons_self, true_or, if_true]
      exact walk_cons_eq_ok_iff.2
        ⟨place, hstep, ih fun q hq => hparts q (List.mem_cons_of_mem _ hq)⟩

/-- With slashes at its end, a path leads to a directory that it leads to without them. -/
theorem resolve_slashes_iff (h : endsInSlash p = true) (hne : (withoutSlashes p).text ≠ "") :
    t.resolve p = .ok names ↔ p.text.utf8ByteSize ≤ longestPath ∧
      t.resolve (withoutSlashes p) = .ok names ∧ t.get? names = some .directory := by
  obtain ⟨idle, hidle, hsome, hsteps⟩ := exists_steps_slashes h
  obtain ⟨k, hk⟩ := exists_slashes h
  have htext : p.text = (withoutSlashes p).text ++ String.ofList ('/' :: List.replicate k '/') := by
    rw [← String.toList_inj, hk, String.toList_append, String.toList_ofList]
  have horigin : t.origin (withoutSlashes p) = t.origin p := by
    have hlist : (withoutSlashes p).text.toList ≠ [] := by simpa using hne
    obtain ⟨c, rest, hfirst⟩ := List.exists_cons_of_ne_nil hlist
    simp [origin, Path.isAbsolute, hk, hfirst]
  rw [resolve_eq_ok_iff, resolve_eq_ok_iff, hsteps, horigin, walk_append_eq_ok_iff]
  constructor
  · rintro ⟨hspelled, mid, hwalk, hrest⟩
    obtain rfl : names = mid := walk_idle (fun part hpart => .inl (hidle part hpart)) hrest
    have hdir : t.get? names = some .directory := by
      obtain ⟨part, parts, rfl⟩ := List.exists_cons_of_ne_nil hsome
      obtain ⟨next, hstep, -⟩ := walk_cons_eq_ok_iff.1 hrest
      exact get?_of_step hstep
    have hnul := hspelled.nul
    have hsize := hspelled.size_le
    rw [hk] at hnul
    rw [htext, String.utf8ByteSize_append] at hsize
    refine ⟨hspelled.size_le, ⟨⟨?_, hne, le_trans (Nat.le_add_right _ _) hsize⟩, hwalk⟩, hdir⟩
    simp only [List.contains_eq_mem, decide_eq_false_iff_not, List.mem_append, not_or] at hnul ⊢
    exact hnul.1
  · rintro ⟨hsize, ⟨hspelled, hwalk⟩, hdir⟩
    have hnul := hspelled.nul
    refine ⟨⟨?_, ?_, hsize⟩, names, hwalk, walk_empty hidle hdir⟩
    · rw [hk]
      simpa using hnul
    · rw [htext]
      simp

/-- A path that leads somewhere leads there as the place for a new entry, too. -/
theorem newPlace_of_resolve (h : t.resolve p = .ok names) : t.newPlace p = .ok names := by
  unfold newPlace
  split
  · rename_i hslashes
    simp only [Bool.and_eq_true, bne_iff_ne, ne_eq, decide_eq_true_eq] at hslashes
    exact ((resolve_slashes_iff hslashes.1.1 hslashes.1.2).1 h).2.1
  · exact h

/-- Where a directory has been made, its path leads. -/
theorem resolve_of_newPlace (h : t.newPlace p = .ok names)
    (hdir : t.get? names = some .directory) : t.resolve p = .ok names := by
  unfold newPlace at h
  split at h
  · rename_i hslashes
    simp only [Bool.and_eq_true, bne_iff_ne, ne_eq, decide_eq_true_eq] at hslashes
    exact (resolve_slashes_iff hslashes.1.1 hslashes.1.2).2 ⟨hslashes.2, h, hdir⟩
  · exact h

theorem KeepsDirectories.newPlace (h : KeepsDirectories t t') (hp : t.newPlace p = .ok names) :
    t'.newPlace p = .ok names := by
  unfold FileTree.newPlace at hp ⊢
  split at hp
  · rename_i hslashes
    rw [if_pos hslashes]
    exact h.resolve hp
  · rename_i hnot
    rw [if_neg hnot]
    exact h.resolve hp

/-! ## Directories -/

theorem isDirectory_iff :
    t.isDirectory p = true ↔ ∃ names, t.resolve p = .ok names ∧ t.get? names = some .directory := by
  unfold isDirectory lookup
  cases hresolve : t.resolve p with
  | error cause => simp
  | ok names =>
      cases hget : t.get? names with
      | none => simp [hget]
      | some entry => cases entry <;> simp [hget]

theorem KeepsDirectories.isDirectory (h : KeepsDirectories t t') (hp : t.isDirectory p = true) :
    t'.isDirectory p = true := by
  obtain ⟨names, hresolve, hdir⟩ := isDirectory_iff.1 hp
  exact isDirectory_iff.2 ⟨names, h.resolve hresolve, h.directory names hdir⟩

/-- A path leads to the directory that was made under its name. -/
theorem resolve_of_makeDir (h : t.makeDir p = .ok t') :
    ∃ names, t'.resolve p = .ok names ∧ t.get? names = none ∧ t' = t.put names .directory := by
  have hkeeps := (grows_of_makeDir h).keepsDirectories
  obtain ⟨names, hplace, hfree, rfl⟩ := makeDir_eq_ok h
  have hne : names ≠ [] := ne_nil_of_get?_ne (by rw [hfree]; exact nofun)
  exact ⟨names, resolve_of_newPlace (hkeeps.newPlace hplace) (get?_put t _ hne), hfree, rfl⟩

theorem isDirectory_of_makeDir (h : t.makeDir p = .ok t') : t'.isDirectory p = true := by
  obtain ⟨names, hresolve, hfree, rfl⟩ := resolve_of_makeDir h
  have hne : names ≠ [] := ne_nil_of_get?_ne (by rw [hfree]; exact nofun)
  exact isDirectory_iff.2 ⟨names, hresolve, get?_put t _ hne⟩

/-- What is there already cannot be made. -/
theorem makeDir_of_isDirectory (h : t.isDirectory p = true) :
    t.makeDir p = .error .alreadyExists := by
  obtain ⟨names, hresolve, hdir⟩ := isDirectory_iff.1 h
  simp only [makeDir, newPlace_of_resolve hresolve, hdir]

/-! ## Making them and those that they lie in -/

/-- A directory is there when it could be made. -/
theorem isDirectory_of_dig (h : t.dig p = (.ok (), t')) (hne : p.text ≠ "") :
    t'.isDirectory p = true := by
  -- It has been made, at once or below the one above it, or it was found there.
  unfold dig at h
  rw [digWithin, if_neg hne] at h
  split at h
  · rename_i hmade
    cases h
    exact isDirectory_of_makeDir hmade
  · split at h
    · cases h
    · split at h
      · cases h
      · split at h
        · rename_i hmade
          cases h
          exact isDirectory_of_makeDir hmade
        · split at h
          · rename_i hdir
            cases h
            exact hdir
          · cases h
  · split at h
    · rename_i hdir
      cases h
      exact hdir
    · cases h

/-- Where there is a directory, or no name for one, none is made. -/
theorem dig_of_isDirectory (h : p.text = "" ∨ t.isDirectory p = true) :
    t.dig p = (.ok (), t) := by
  unfold dig
  rw [digWithin]
  by_cases hempty : p.text = ""
  · rw [if_pos hempty]
  · have hdir := h.resolve_left hempty
    rw [if_neg hempty, makeDir_of_isDirectory hdir]
    simp only [hdir, if_true]

/-- What has been added is a directory, at the place of the path or of one above it. -/
theorem Dug.added (h : Dug p t t') (hthere : t'.get? names = some e) (hnew : t.get? names = .none) :
    e = .directory ∧ ∃ q, p.Above q ∧ t'.resolve q = .ok names := by
  induction h with
  | none =>
      rw [hnew] at hthere
      cases hthere
  | above hparent _ ih =>
      obtain ⟨hdir, q, hq, hresolve⟩ := ih hthere hnew
      exact ⟨hdir, q, .parent hparent hq, hresolve⟩
  | made _ hmade ih =>
      have hkeeps := (grows_of_makeDir hmade).keepsDirectories
      obtain ⟨place, hresolve, hfree, rfl⟩ := resolve_of_makeDir hmade
      have hne : place ≠ [] := ne_nil_of_get?_ne (by rw [hfree]; exact nofun)
      rw [get?_put_eq hne] at hthere
      split at hthere
      · rename_i hhere
        cases hthere
        exact ⟨rfl, _, .self, hhere ▸ hresolve⟩
      · -- It was added before.
        obtain ⟨hdir, q, hq, hq'⟩ := ih hthere hnew
        exact ⟨hdir, q, hq, hkeeps.resolve hq'⟩

/-- Making directories makes no file executable. -/
theorem Dug.executable_eq (h : Dug p t t') : t'.executable = t.executable := by
  induction h with
  | none => rfl
  | above _ _ ih => exact ih
  | made _ hmade ih =>
      obtain ⟨names, -, -, rfl⟩ := makeDir_eq_ok hmade
      exact ih

theorem executable_of_writeBytes {bytes : ByteArray} (h : t.writeBytes p bytes = .ok t') :
    t'.executable = t.executable := by
  unfold writeBytes at h
  split at h
  · cases h
  · split at h
    · cases h
    · split at h
      · cases h
      · cases h
        rfl
      · cases h
        rfl

end FileTree
end Trainer
