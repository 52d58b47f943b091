import Mathlib
import Trainer.FileTree
import Trainer.Proofs.Path

/-!
# Where paths lead

A path is followed from directory to directory, so where it leads depends on the directories only.
When directories are made, a path that led somewhere leads there still.  A path that led nowhere may
lead somewhere then, and even to a file that was there all the time: a `..` leads out of a directory
that has just been made, to what lay beside it.  Without such a `..` it leads to no file that it did
not lead to before (`Grows.contents?_eq`).

## The argument

* In a grounded tree every entry lies in a directory, so nothing lies below a place where no
  directory is (`Grounded.get?_append`).
* A walk that goes on from a place without `..` ends below that place (`exists_append_of_walk`).
* So a walk that was stopped at a missing directory ends, once that one is there, where nothing was.
-/

namespace Trainer

def Entry.contents? : Entry → Option ByteArray
  | .directory => none
  | .file _ contents => some contents

/-! ## The parts of a path -/

namespace Path

/-- The parts of a path that are followed one after the other. -/
def steps (p : Path) : List String :=
  (Chars.splitAt '/' p.text.toList).map String.ofList

theorem steps_ne_nil (p : Path) : p.steps ≠ [] := by
  rw [steps, ne_eq, List.map_eq_nil_iff]
  exact Chars.splitAt_ne_nil _

/-- What the system demands of a path before it follows it. -/
structure IsSpelled (p : Path) : Prop where
  nul : p.text.toList.contains '\x00' = false
  ne_empty : p.text ≠ ""
  size_le : p.text.utf8ByteSize ≤ FileTree.longestPath

end Path

namespace FileTree

variable {t t' : FileTree} {p : Path} {place names : List String} {e : Entry}

def origin (t : FileTree) (p : Path) : List String :=
  if p.isAbsolute then [] else t.workingDir

/-- A path is followed part by part, if it can be spelled. -/
theorem resolve_eq_ok_iff :
    t.resolve p = .ok names ↔ p.IsSpelled ∧ t.walk (t.origin p) p.steps = .ok names := by
  constructor
  · intro h
    unfold resolve at h
    split at h
    · cases h
    · rename_i hnul
      split at h
      · cases h
      · rename_i hempty
        split at h
        · cases h
        · rename_i hlong
          exact ⟨⟨by simpa using hnul, hempty, Nat.le_of_not_lt hlong⟩, h⟩
  · rintro ⟨hp, hwalk⟩
    rw [resolve, hp.nul, if_neg Bool.false_ne_true, if_neg hp.ne_empty,
      if_neg (Nat.not_lt.2 hp.size_le)]
    exact hwalk

/-- A new entry's place is the place of some path. -/
theorem exists_newPlace_eq (t : FileTree) (p : Path) : ∃ q, t.newPlace p = t.resolve q := by
  unfold newPlace
  split
  · exact ⟨_, rfl⟩
  · exact ⟨_, rfl⟩

theorem newPlace_of_endsInSlash_eq_false (h : endsInSlash p = false) :
    t.newPlace p = t.resolve p := by
  rw [newPlace, h]
  rfl

/-! ## Walking -/

@[simp] theorem get?_nil (t : FileTree) : t.get? [] = some .directory := rfl

theorem get?_of_step {part : String} (h : t.step place part = .ok names) :
    t.get? place = some .directory := by
  unfold step at h
  split at h
  · cases h
  · cases h
  · assumption

/-- From a directory, a part leads to the same place in all trees. -/
theorem step_congr (h : t.get? place = some .directory) (h' : t'.get? place = some .directory)
    (part : String) : t'.step place part = t.step place part := by
  simp only [step, h, h']

theorem step_name {n : String} (hn : Path.IsName n) (h : t.step place n = .ok names) :
    names = place ++ [n] := by
  simp only [step, get?_of_step h, hn.ne_empty, hn.ne_dot, hn.ne_dots, or_self, if_false] at h
  split at h
  · cases h
  · exact (Except.ok.inj h).symm

theorem walk_cons_eq_ok_iff {part : String} {parts : List String} :
    t.walk place (part :: parts) = .ok names ↔
      ∃ next, t.step place part = .ok next ∧ t.walk next parts = .ok names := by
  rw [walk]
  split
  · rename_i next hstep
    simp [hstep]
  · rename_i e hstep
    simp [hstep]

theorem walk_append_eq_ok_iff {parts more : List String} :
    t.walk place (parts ++ more) = .ok names ↔
      ∃ mid, t.walk place parts = .ok mid ∧ t.walk mid more = .ok names := by
  induction parts generalizing place with
  | nil => simp [walk]
  | cons part parts ih =>
      simp only [List.cons_append, walk_cons_eq_ok_iff, ih]
      constructor
      · rintro ⟨next, hstep, mid, hparts, hmore⟩
        exact ⟨mid, ⟨next, hstep, hparts⟩, hmore⟩
      · rintro ⟨mid, ⟨next, hstep, hparts⟩, hmore⟩
        exact ⟨next, hstep, mid, hparts, hmore⟩

/-- Empty parts and single dots lead nowhere else. -/
theorem walk_idle {parts : List String} (hidle : ∀ part ∈ parts, part = "" ∨ part = ".")
    (h : t.walk place parts = .ok names) : names = place := by
  induction parts generalizing place with
  | nil => exact (Except.ok.inj h).symm
  | cons part parts ih =>
      obtain ⟨next, hstep, hrest⟩ := walk_cons_eq_ok_iff.1 h
      have hnext : next = place := by
        simp only [step, get?_of_step hstep, hidle part List.mem_cons_self, if_true] at hstep
        exact (Except.ok.inj hstep).symm
      rw [ih (fun q hq => hidle q (List.mem_cons_of_mem _ hq)) hrest, hnext]

/-- Parts that name nothing can be left out of a walk. -/
theorem walk_filter {ps : List Path.Part} (h : t.walk place (ps.map String.ofList) = .ok names) :
    t.walk place ((ps.filter fun part => !Path.isIdle part).map String.ofList) = .ok names := by
  induction ps generalizing place with
  | nil => exact h
  | cons part ps ih =>
      obtain ⟨next, hstep, hrest⟩ := walk_cons_eq_ok_iff.1 h
      cases hidle : Path.isIdle part with
      | true =>
          have hpart : String.ofList part = "" ∨ String.ofList part = "." :=
            (Path.isIdle_iff.1 hidle).imp (congrArg String.ofList) (congrArg String.ofList)
          simp only [step, get?_of_step hstep, hpart, if_true] at hstep
          rw [List.filter_cons_of_neg (by simp [hidle]), Except.ok.inj hstep]
          exact ih hrest
      | false =>
          rw [List.filter_cons_of_pos (by simp [hidle]), List.map_cons]
          exact walk_cons_eq_ok_iff.2 ⟨next, hstep, ih hrest⟩

/-- Without a `..`, a part leads down or nowhere. -/
theorem exists_append_of_step {part : String} (hpart : part ≠ "..")
    (h : t.step place part = .ok names) : ∃ more, names = place ++ more := by
  simp only [step, get?_of_step h, hpart, if_false] at h
  split at h
  · exact ⟨[], by rw [← Except.ok.inj h, List.append_nil]⟩
  · split at h
    · cases h
    · exact ⟨[part], (Except.ok.inj h).symm⟩

/-- Without a `..`, a walk ends below the place where it started. -/
theorem exists_append_of_walk {parts : List String} (hparts : ".." ∉ parts)
    (h : t.walk place parts = .ok names) : ∃ more, names = place ++ more := by
  induction parts generalizing place with
  | nil => exact ⟨[], by rw [← Except.ok.inj h, List.append_nil]⟩
  | cons part parts ih =>
      rw [List.mem_cons, not_or] at hparts
      obtain ⟨next, hstep, hrest⟩ := walk_cons_eq_ok_iff.1 h
      obtain ⟨first, rfl⟩ := exists_append_of_step (Ne.symm hparts.1) hstep
      obtain ⟨more, rfl⟩ := ih hparts.2 hrest
      exact ⟨first ++ more, List.append_assoc _ _ _⟩

/-- Without a `..`, a walk goes by the directories above the place where it ends. -/
theorem walk_of_above {parts : List String} (hparts : ".." ∉ parts)
    (hkept : ∀ above, above <+: names → t.get? above = some .directory →
      t'.get? above = some .directory)
    (h : t.walk place parts = .ok names) : t'.walk place parts = .ok names := by
  induction parts generalizing place with
  | nil => exact h
  | cons part parts ih =>
      obtain ⟨more, hmore⟩ := exists_append_of_walk hparts h
      obtain ⟨next, hstep, hrest⟩ := walk_cons_eq_ok_iff.1 h
      have hdir := get?_of_step hstep
      have hdir' := hkept place ⟨more, hmore.symm⟩ hdir
      rw [List.mem_cons, not_or] at hparts
      exact walk_cons_eq_ok_iff.2
        ⟨next, by rw [step_congr hdir hdir', hstep], ih hparts.2 hrest⟩

/-! ## Trees that keep the directories of another -/

/-- All directories of the first tree are directories of the second. -/
structure KeepsDirectories (t t' : FileTree) : Prop where
  directory (names : List String) : t.get? names = some .directory → t'.get? names = some .directory
  workingDir : t'.workingDir = t.workingDir

theorem KeepsDirectories.step (h : KeepsDirectories t t') {part : String}
    (hstep : t.step place part = .ok names) : t'.step place part = .ok names := by
  have hdir := get?_of_step hstep
  rw [step_congr hdir (h.directory _ hdir), hstep]

/-- A way that could be gone can still be gone. -/
theorem KeepsDirectories.walk (h : KeepsDirectories t t') {parts : List String}
    (hwalk : t.walk place parts = .ok names) : t'.walk place parts = .ok names := by
  induction parts generalizing place with
  | nil => exact hwalk
  | cons part parts ih =>
      obtain ⟨next, hstep, hrest⟩ := walk_cons_eq_ok_iff.1 hwalk
      exact walk_cons_eq_ok_iff.2 ⟨next, h.step hstep, ih hrest⟩

theorem KeepsDirectories.origin (h : KeepsDirectories t t') (p : Path) :
    t'.origin p = t.origin p := by
  rw [FileTree.origin, FileTree.origin, h.workingDir]

/-- A path that led to a place leads there still. -/
theorem KeepsDirectories.resolve (h : KeepsDirectories t t') (hp : t.resolve p = .ok names) :
    t'.resolve p = .ok names := by
  obtain ⟨hspelled, hwalk⟩ := resolve_eq_ok_iff.1 hp
  rw [resolve_eq_ok_iff, h.origin]
  exact ⟨hspelled, h.walk hwalk⟩

/-! ## Grounded trees -/

/-- Every entry lies in a directory. -/
def Grounded (t : FileTree) : Prop :=
  ∀ x ∈ t.entries, t.get? x.1.dropLast = some .directory

deriving instance DecidableEq for Entry

instance (t : FileTree) : Decidable t.Grounded :=
  inferInstanceAs (Decidable (∀ x ∈ t.entries, _))

/-- What is there lies in a directory. -/
theorem Grounded.get?_dropLast (ht : t.Grounded) (h : t.get? names = some e) :
    t.get? names.dropLast = some .directory := by
  by_cases hroot : names = []
  · rw [hroot]
    rfl
  · rw [get?, if_neg hroot] at h
    obtain ⟨before, after, hentries, -⟩ := List.lookup_eq_some_iff.1 h
    exact ht (names, e) (by simp [hentries])

/-- Nothing lies below a place where no directory is. -/
theorem Grounded.get?_append (ht : t.Grounded) (hplace : t.get? place ≠ some .directory)
    {more : List String} (hmore : more ≠ []) : t.get? (place ++ more) = none := by
  induction more using List.reverseRecOn with
  | nil => exact absurd rfl hmore
  | append_singleton init n ih =>
      -- Something there would lie in a directory, which is above it and not there either.
      by_contra hthere
      obtain ⟨e, he⟩ := Option.ne_none_iff_exists'.1 hthere
      have hdir : t.get? (place ++ init) = some .directory := by
        have hlast := ht.get?_dropLast he
        rwa [← List.append_assoc, List.dropLast_concat] at hlast
      by_cases hinit : init = []
      · rw [hinit, List.append_nil] at hdir
        exact hplace hdir
      · rw [ih hinit] at hdir
        cases hdir

theorem Grounded.get?_dropLast_of_step (ht : t.Grounded) {part : String}
    (h : t.step place part = .ok names) : t.get? names.dropLast = some .directory := by
  have hdir := get?_of_step h
  simp only [step, hdir] at h
  split at h
  · rw [← Except.ok.inj h]
    exact ht.get?_dropLast hdir
  · split at h
    · rw [← Except.ok.inj h]
      exact ht.get?_dropLast (ht.get?_dropLast hdir)
    · split at h
      · cases h
      · rw [← Except.ok.inj h, List.dropLast_concat]
        exact hdir

/-- A walk ends in a directory, whether or not something is there. -/
theorem Grounded.get?_dropLast_of_walk (ht : t.Grounded) {parts : List String}
    (hparts : parts ≠ []) (h : t.walk place parts = .ok names) :
    t.get? names.dropLast = some .directory := by
  induction parts generalizing place with
  | nil => exact absurd rfl hparts
  | cons part parts ih =>
      obtain ⟨next, hstep, hrest⟩ := walk_cons_eq_ok_iff.1 h
      by_cases hlast : parts = []
      · subst hlast
        rw [← Except.ok.inj hrest]
        exact ht.get?_dropLast_of_step hstep
      · exact ih hlast hrest

/-- The place a path leads to lies in a directory, whether or not something is there. -/
theorem Grounded.get?_dropLast_of_resolve (ht : t.Grounded) (h : t.resolve p = .ok names) :
    t.get? names.dropLast = some .directory :=
  ht.get?_dropLast_of_walk p.steps_ne_nil (resolve_eq_ok_iff.1 h).2

/-! ## What a path leads to -/

theorem lookup_eq_ok_iff :
    t.lookup p = .ok (names, e) ↔ t.resolve p = .ok names ∧ t.get? names = some e := by
  unfold lookup
  constructor
  · intro h
    split at h
    · cases h
    · rename_i place hresolve
      split at h
      · rename_i hget
        cases h
        exact ⟨hresolve, hget⟩
      · cases h
  · rintro ⟨hresolve, hget⟩
    simp only [hresolve, hget]

/-- What a path leads to, if anything. -/
def entry? (t : FileTree) (p : Path) : Option Entry :=
  (t.lookup p).toOption.map Prod.snd

theorem entry?_eq_some_iff :
    t.entry? p = some e ↔ ∃ names, t.resolve p = .ok names ∧ t.get? names = some e := by
  simp only [← lookup_eq_ok_iff, entry?]
  cases t.lookup p with
  | error cause => simp [Except.toOption]
  | ok x =>
      obtain ⟨names, e'⟩ := x
      simp [Except.toOption]

/-- The contents of the file that a path leads to, if it leads to one. -/
def contents? (t : FileTree) (p : Path) : Option ByteArray :=
  (t.readBytes p).toOption

/-- Only a file has contents. -/
theorem contents?_eq (t : FileTree) (p : Path) :
    t.contents? p = (t.entry? p).bind Entry.contents? := by
  unfold contents? readBytes entry?
  split
  · rename_i h
    simp [h, Except.toOption]
  · rename_i h
    simp [h, Except.toOption, Entry.contents?]
  · rename_i h
    simp [h, Except.toOption, Entry.contents?]

/-- A path reads as a file if it leads to one. -/
theorem contents?_eq_some_iff {bytes : ByteArray} : t.contents? p = some bytes ↔
    ∃ names i, t.resolve p = .ok names ∧ t.get? names = some (.file i bytes) := by
  rw [contents?_eq, Option.bind_eq_some_iff]
  constructor
  · rintro ⟨e, he, hbytes⟩
    obtain ⟨names, hresolve, hget⟩ := entry?_eq_some_iff.1 he
    cases e with
    | directory => cases hbytes
    | file i contents =>
        cases hbytes
        exact ⟨names, i, hresolve, hget⟩
  · rintro ⟨names, i, hresolve, hget⟩
    exact ⟨_, entry?_eq_some_iff.2 ⟨names, hresolve, hget⟩, rfl⟩

theorem exists?_eq (t : FileTree) (p : Path) : t.exists? p = (t.entry? p).isSome := by
  unfold exists? entry?
  split
  · rename_i h
    simp [h, Except.toOption]
  · rename_i h
    simp [h, Except.toOption]

theorem exists?_eq_true_iff : t.exists? p = true ↔
    ∃ names e, t.resolve p = .ok names ∧ t.get? names = some e := by
  rw [exists?_eq, Option.isSome_iff_exists, exists_comm]
  simp only [entry?_eq_some_iff]

/-! ## Straight paths -/

/-- Whether no `..` follows a missing directory, on the way from a place. -/
def straightFrom (t : FileTree) : List String → List String → Bool
  | _, [] => true
  | place, part :: parts =>
      match t.step place part with
      | .ok next => t.straightFrom next parts
      -- The directory from which this part goes on is missing.
      | .error .notFound => !(part :: parts).contains ".."
      | .error _ => true

/-- Whether no `..` of a path comes after a directory that is missing. -/
def straight (t : FileTree) (p : Path) : Bool :=
  t.straightFrom (t.origin p) p.steps

/-- A path without `..` is straight in every tree. -/
theorem straight_of_not_mem (t : FileTree) (hp : ".." ∉ p.steps) : t.straight p = true := by
  unfold straight
  generalize t.origin p = place
  generalize p.steps = parts at hp
  induction parts generalizing place with
  | nil => rfl
  | cons part parts ih =>
      rw [List.mem_cons, not_or] at hp
      rw [straightFrom]
      split
      · exact ih _ hp.2
      · simp [hp.1, hp.2]
      · rfl

/-- A path on which all directories exist is straight. -/
theorem straight_of_resolve (hp : t.resolve p = .ok names) : t.straight p = true := by
  have hwalk := (resolve_eq_ok_iff.1 hp).2
  unfold straight
  generalize t.origin p = place at hwalk
  generalize p.steps = parts at hwalk
  induction parts generalizing place with
  | nil => rfl
  | cons part parts ih =>
      obtain ⟨next, hstep, hrest⟩ := walk_cons_eq_ok_iff.1 hwalk
      rw [straightFrom, hstep]
      exact ih next hrest

/-- A path that leads to a file is straight. -/
theorem straight_of_contents? {bytes : ByteArray} (h : t.contents? p = some bytes) :
    t.straight p = true := by
  obtain ⟨names, i, hresolve, -⟩ := contents?_eq_some_iff.1 h
  exact straight_of_resolve hresolve

/-! ## More directories -/

/-- The second tree is the first one with more directories. -/
structure Grows (t t' : FileTree) : Prop where
  kept (names : List String) (e : Entry) : t.get? names = some e → t'.get? names = some e
  file (names : List String) (i : Nat) (bytes : ByteArray) :
    t'.get? names = some (.file i bytes) → t.get? names = some (.file i bytes)
  workingDir : t'.workingDir = t.workingDir

theorem Grows.refl (t : FileTree) : Grows t t :=
  ⟨fun _ _ h => h, fun _ _ _ h => h, rfl⟩

theorem Grows.trans {t₁ t₂ t₃ : FileTree} (h₁ : Grows t₁ t₂) (h₂ : Grows t₂ t₃) : Grows t₁ t₃ :=
  ⟨fun names e he => h₂.kept names e (h₁.kept names e he),
    fun names i bytes hf => h₁.file names i bytes (h₂.file names i bytes hf),
    h₂.workingDir.trans h₁.workingDir⟩

/-- A tree that only grows keeps its directories. -/
theorem Grows.keepsDirectories (h : Grows t t') : KeepsDirectories t t' :=
  ⟨fun names hdir => h.kept names _ hdir, h.workingDir⟩

/--
On a straight way, more directories lead to nothing that was there before and could not be reached.
-/
theorem Grows.walk_of_there (h : Grows t t') (ht : t.Grounded) {parts : List String}
    (hstraight : t.straightFrom place parts = true) (hwalk : t'.walk place parts = .ok names)
    (hthere : t.get? names = some e) : t.walk place parts = .ok names := by
  induction parts generalizing place with
  | nil => exact hwalk
  | cons part parts ih =>
      obtain ⟨next', hstep', hrest⟩ := walk_cons_eq_ok_iff.1 hwalk
      have hdir' := get?_of_step hstep'
      rw [straightFrom] at hstraight
      cases hplace : t.get? place with
      | none =>
          -- The walk was stopped here, and now ends below this place, where nothing was.
          have hmissing : t.step place part = .error .notFound := by
            simp only [step, hplace]
          simp only [hmissing, Bool.not_eq_true', List.contains_eq_mem, decide_eq_false_iff_not]
            at hstraight
          obtain ⟨more, rfl⟩ := exists_append_of_walk hstraight hwalk
          by_cases hmore : more = []
          · rw [hmore, List.append_nil, hplace] at hthere
            cases hthere
          · rw [ht.get?_append (by rw [hplace]; exact nofun) hmore] at hthere
            cases hthere
      | some entry =>
          have hkept := h.kept _ _ hplace
          rw [hdir'] at hkept
          cases hkept
          have hstep : t.step place part = .ok next' := by
            rw [← step_congr hplace hdir', hstep']
          rw [hstep] at hstraight
          exact walk_cons_eq_ok_iff.2 ⟨next', hstep, ih hstraight hrest⟩

/-- On a path without `..`, a tree that grows does not move what was there. -/
theorem Grows.resolve_of_there (h : Grows t t') (ht : t.Grounded) (hstraight : t.straight p = true)
    (hresolve : t'.resolve p = .ok names) (hthere : t.get? names = some e) :
    t.resolve p = .ok names := by
  obtain ⟨hspelled, hwalk⟩ := resolve_eq_ok_iff.1 hresolve
  rw [h.keepsDirectories.origin] at hwalk
  exact resolve_eq_ok_iff.2 ⟨hspelled, h.walk_of_there ht hstraight hwalk hthere⟩

/-- A straight path leads to the same contents, or to none, however many directories are made. -/
theorem Grows.contents?_eq (h : Grows t t') (ht : t.Grounded) (hstraight : t.straight p = true) :
    t'.contents? p = t.contents? p := by
  refine Option.ext fun bytes => ?_
  rw [contents?_eq_some_iff, contents?_eq_some_iff]
  constructor
  · rintro ⟨names, i, hresolve, hget⟩
    have hthere := h.file _ _ _ hget
    exact ⟨names, i, h.resolve_of_there ht hstraight hresolve hthere, hthere⟩
  · rintro ⟨names, i, hresolve, hget⟩
    exact ⟨names, i, h.keepsDirectories.resolve hresolve, h.kept _ _ hget⟩

end FileTree
end Trainer
