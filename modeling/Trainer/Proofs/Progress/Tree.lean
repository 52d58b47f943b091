import Mathlib
import Trainer.Config
import Trainer.Proofs.FileTree.Digging
import Trainer.Proofs.Path.Parent
import Trainer.Proofs.Progress.Replacement

/-!
# Stored progress on a tree

A tree of files keeps what a file system promises about a file at a path without `..`
(`Sandbox.keeps`), as long as every entry of the tree lies in a directory.  A host has no way to say
so of its states, so the machine is taken with the states only of which it is true (`Host.within`).

## The argument

* What a reader finds is decided by what the path leads to (`Sandbox.look_eq`).
* Of the directories that are made for a file, none stands where the file's path leads
  (`Dug.get?_eq`), so the path leads to what it led to.
* The side file is written at another place.  When it is moved, what lies above the place of the
  file is not moved with it (`resolve_of_moved`), so the path leads there still.
-/

namespace Trainer

/-! ## States of a kind -/

section Within

variable {σ ε α : Type} {holds : σ → Prop} [DecidablePred holds]

/-- An action on the states of a kind; a change that leads out of them is not made. -/
def Act.within (holds : σ → Prop) [DecidablePred holds] (x : Act σ ε α) :
    Act { s // holds s } ε α := fun s =>
  ((x s.1).1, if h : holds (x s.1).2 then ⟨(x s.1).2, h⟩ else s)

/-- A host with those of its states only that are of a kind. -/
def Host.within (host : Host σ) (holds : σ → Prop) [DecidablePred holds] :
    Host { s // holds s } where
  now := fun s => host.now s
  kind? := fun path s => host.kind? path s
  canonical := fun path s => host.canonical path s
  readText := fun path s => host.readText path s
  filesBelow := fun root s => host.filesBelow root s
  findsProgram := fun name s => host.findsProgram name s
  makeDirs := fun path => (host.makeDirs path).within holds
  writeText := fun path text => (host.writeText path text).within holds
  rename := fun source target => (host.rename source target).within holds
  openLog := fun path => (host.openLog path).within holds
  lock := fun path => (host.lock path).within holds
  unlock := fun handle s => if h : holds (host.unlock handle s) then ⟨_, h⟩ else s
  execute := fun command dir limit => (host.execute command dir limit).within holds

/-- An action that does not lead out of the states of a kind is done as it is. -/
theorem Act.eq_of_within {x : Act σ ε α} {s s' : { s // holds s }} {r : Except ε α}
    (hx : ∀ r t, x s.1 = (r, t) → holds t) (h : x.within holds s = (r, s')) :
    x s.1 = (r, s'.1) := by
  have hholds : holds (x s.1).2 := hx _ _ rfl
  simp only [Act.within, hholds, dite_true] at h
  cases h
  rfl

/-- Restricted to some states, a machine shows the same files. -/
theorem Host.look_within (host : Host σ) (path : Path) (s : { s // holds s }) :
    (host.within holds).look path s = host.look path s.1 := rfl

end Within

/-! ## Paths above a file -/

namespace Path

variable {p dir q : Path} {n : String}

/-- What lies above a path starts where it starts, and names the first of what it names. -/
theorem Above.parts_prefix (h : dir.Above q) :
    q.isAbsolute = dir.isAbsolute ∧ parts q.text.toList <+: parts dir.text.toList := by
  induction h with
  | self => exact ⟨rfl, List.prefix_refl _⟩
  | parent hparent _ ih =>
      obtain ⟨habsolute, hparts⟩ := parts_of_parent? hparent
      refine ⟨ih.1.trans habsolute, ih.2.trans ?_⟩
      rw [hparts]
      exact List.dropLast_prefix _

/-- The parts of a path with a file name end in that name. -/
theorem parts_of_fileName? (h : p.fileName? = some n) :
    ∃ init, parts p.text.toList = init ++ [n.toList] := by
  obtain ⟨before, idles, hsplit, hidles⟩ := splitAt_of_fileName? h
  have hnone : (idles.filter fun part => !isIdle part) = [] :=
    List.filter_eq_nil_iff.2 fun part hpart => by simp [hidles part hpart]
  refine ⟨before.filter fun part => !isIdle part, ?_⟩
  rw [← parts_splitFront, parts, hsplit, List.filter_append,
    List.filter_cons_of_pos (by simp [(isName_of_fileName? h).not_isIdle]), hnone]

end Path

namespace FileTree

variable {t t' : FileTree} {p dir q : Path} {n : String} {place names : List String} {e : Entry}

/-- Where a path leads, its parts have led one after another. -/
theorem walk_parts (h : t.resolve p = .ok names) :
    t.walk (t.origin p) ((Path.parts p.text.toList).map String.ofList) = .ok names :=
  walk_filter (resolve_eq_ok_iff.1 h).2

/-- Without a `..`, a path leads to no place to which a path above it leads. -/
theorem ne_of_above (hname : p.fileName? = some n) (hdots : ".." ∉ p.steps)
    (hparent : p.parent? = some dir) (habove : dir.Above q) (hp : t.resolve p = .ok names)
    (hq : t.resolve q = .ok place) : place ≠ names := by
  obtain ⟨habsolute, hprefix⟩ := habove.parts_prefix
  obtain ⟨habsolute', hdir⟩ := Path.parts_of_parent? hparent
  obtain ⟨init, hinit⟩ := Path.parts_of_fileName? hname
  rw [hdir, hinit, List.dropLast_concat] at hprefix
  obtain ⟨more, rfl⟩ := hprefix
  have horigin : t.origin q = t.origin p := by
    rw [origin, origin, habsolute, habsolute']
  have hnodots : ".." ∉ more.map String.ofList := by
    intro hmem
    obtain ⟨part, hpart, heq⟩ := List.mem_map.1 hmem
    have hpart' : part ∈ Path.parts p.text.toList := by simp [hinit, hpart]
    exact hdots (List.mem_map.2 ⟨part, List.mem_of_mem_filter hpart', heq⟩)
  -- The path goes on from that place, by what it names after it, and by its last name at least.
  have hwalk := walk_parts hp
  rw [hinit, List.map_append, List.map_append, List.append_assoc, walk_append_eq_ok_iff] at hwalk
  obtain ⟨mid, hmid, hrest⟩ := hwalk
  obtain rfl : place = mid := by
    rw [← horigin, walk_parts hq] at hmid
    exact Except.ok.inj hmid
  rw [walk_append_eq_ok_iff] at hrest
  obtain ⟨mid, hmore, hlast⟩ := hrest
  obtain ⟨below, rfl⟩ := exists_append_of_walk hnodots hmore
  obtain ⟨next, hstep, hend⟩ := walk_cons_eq_ok_iff.1 hlast
  rw [String.ofList_toList] at hstep
  obtain rfl := step_name (Path.isName_of_fileName? hname) hstep
  rw [← Except.ok.inj hend]
  intro heq
  simpa using congrArg List.length heq

/-! ## Making the directory of a file -/

/-- None of the directories that are made for a file stands where the file's path leads. -/
theorem Dug.get?_eq (h : Dug dir t t') (hname : p.fileName? = some n) (hdots : ".." ∉ p.steps)
    (hparent : p.parent? = some dir) (hp : t'.resolve p = .ok names) :
    t'.get? names = t.get? names := by
  cases hold : t.get? names with
  | some e => exact h.grows.kept names e hold
  | none =>
      by_contra hthere
      obtain ⟨e, he⟩ := Option.ne_none_iff_exists'.1 hthere
      obtain ⟨-, q, habove, hq⟩ := h.added he hold
      exact ne_of_above hname hdots hparent habove hp hq rfl

/-- Digging the directory of a file leaves what is at the file's path. -/
theorem Dug.entry?_eq (h : Dug dir t t') (ht : t.Grounded) (hname : p.fileName? = some n)
    (hdots : ".." ∉ p.steps) (hparent : p.parent? = some dir) : t'.entry? p = t.entry? p := by
  refine Option.ext fun e => ?_
  rw [entry?_eq_some_iff, entry?_eq_some_iff]
  constructor
  · rintro ⟨names, hresolve, hget⟩
    rw [h.get?_eq hname hdots hparent hresolve] at hget
    exact ⟨names,
      h.grows.resolve_of_there ht (straight_of_not_mem t hdots) hresolve hget, hget⟩
  · rintro ⟨names, hresolve, hget⟩
    exact ⟨names, h.grows.keepsDirectories.resolve hresolve, h.grows.kept _ _ hget⟩

/-! ## Moving the side file -/

/-- When the side file is moved to where the file's path leads, the path leads there still. -/
theorem resolve_of_moved (hname : p.fileName? = some n) (hdots : ".." ∉ p.steps)
    (hplace : t.resolve p = .ok place) (hside : t.resolve (Progress.sidePath p) = .ok names)
    (hget : t.get? names = some e) (hfree : e ≠ .directory → t.get? place ≠ some .directory) :
    (t.move names place).resolve p = .ok place := by
  obtain ⟨above, rfl, rfl⟩ := Progress.places_of_sidePath hname hplace hside
  obtain ⟨hspelled, hwalk⟩ := resolve_eq_ok_iff.1 hplace
  refine resolve_eq_ok_iff.2 ⟨hspelled, walk_of_above hdots (fun way hway hdir => ?_) hwalk⟩
  rcases List.prefix_concat_iff.1 hway with rfl | hway
  · -- A directory was there, so it is a directory that has taken its place.
    rw [get?_move_self (by simp) (by simp), hget]
    by_contra hne
    exact hfree (fun he => hne (congrArg some he)) hdir
  · have hshort (m : String) : ¬ above ++ [m] <+: way := fun h => by
      have hle := h.length_le.trans hway.length_le
      simp at hle
    rw [get?_move_elsewhere (by simp) (hshort n), if_neg (hshort _), hdir]

end FileTree

/-! ## The promises of a tree -/

/-- What a reader finds in an entry. -/
def Entry.text : Entry → Except IoError String
  | .directory => .error .isDirectory
  | .file _ contents =>
      match String.fromUTF8? contents with
      | some s => .ok s
      | none => .error .notText

theorem Entry.text_toUTF8 (i : Nat) (text : String) :
    (Entry.file i text.toUTF8).text = .ok text := by
  have hread : String.fromUTF8? text.toUTF8 = some text := dif_pos text.isValidUTF8
  simp only [Entry.text, hread]

namespace Sandbox

open FileTree

variable {path dir : Path} {n text : String} {r : Except IoError Unit} {s s' : Sandbox}

/-- What a reader finds is decided by what the path leads to. -/
theorem look_eq (path : Path) (s : Sandbox) :
    host.look path s = (s.tree.entry? path).map Entry.text := by
  rw [Host.look, exists?_host, exists?_eq]
  cases hentry : s.tree.entry? path with
  | none => rfl
  | some e =>
      obtain ⟨names, hresolve, hget⟩ := entry?_eq_some_iff.1 hentry
      have hread : s.tree.readText path = e.text := by
        simp only [FileTree.readText, readBytes, lookup_eq_ok_iff.2 ⟨hresolve, hget⟩]
        cases e with
        | directory => rfl
        | file i contents => rfl
      exact congrArg some hread

theorem look_congr (h : s'.tree.entry? path = s.tree.entry? path) :
    host.look path s' = host.look path s := by
  rw [look_eq, look_eq, h]

theorem grounded_of_makeDirs (ht : s.tree.Grounded) (h : host.makeDirs dir s = (r, s')) :
    s'.tree.Grounded := by
  obtain ⟨tree, hdug, rfl⟩ := dug_of_makeDirs h
  exact hdug.grounded ht

theorem grounded_of_writeText (ht : s.tree.Grounded) (h : host.writeText path text s = (r, s')) :
    s'.tree.Grounded := by
  rcases writeText_host h with ⟨tree, hwrite, -, rfl⟩ | ⟨_, -, rfl⟩
  · obtain ⟨_, -, hwritten⟩ := written_of_eq hwrite
    exact hwritten.grounded ht
  · exact ht

/-- What it takes for the side file to take the place of the file, and where it stands then. -/
theorem moved_of_rename (hname : path.fileName? = some n) (hdots : ".." ∉ path.steps)
    (hslash : endsInSlash path = false)
    (h : host.rename (Progress.sidePath path) path s = (.ok (), s')) :
    ∃ names place e, s.tree.resolve (Progress.sidePath path) = .ok names ∧
      s.tree.get? names = some e ∧ s.tree.resolve path = .ok place ∧
      s' = { s with tree := s.tree.move names place } ∧
      s'.tree.resolve path = .ok place ∧ s'.tree.get? place = some e := by
  rcases rename_host h with ⟨tree, hrename, -, rfl⟩ | ⟨_, hno, -⟩
  · obtain ⟨names, e, place, hside, hget, hplace, hfree, htree⟩ := rename_eq_ok hrename
    rw [newPlace_of_endsInSlash_eq_false hslash] at hplace
    rw [if_neg (Progress.ne_of_sidePath hname hplace hside).symm] at htree
    subst htree
    refine ⟨names, place, e, hside, hget, hplace, rfl, ?_, ?_⟩
    · exact resolve_of_moved hname hdots hplace hside hget fun he => (hfree he).1
    · obtain ⟨above, rfl, rfl⟩ := Progress.places_of_sidePath hname hplace hside
      rw [get?_move_self (by simp) (by simp), hget]
  · cases hno

/-- To move the side file over the file leaves every entry in a directory. -/
theorem grounded_of_rename (hname : path.fileName? = some n) (hdots : ".." ∉ path.steps)
    (hslash : endsInSlash path = false) (ht : s.tree.Grounded)
    (h : host.rename (Progress.sidePath path) path s = (r, s')) : s'.tree.Grounded := by
  cases r with
  | ok _ =>
      obtain ⟨names, place, e, hside, -, hplace, rfl, -, -⟩ :=
        moved_of_rename hname hdots hslash h
      have hparent := ht.get?_dropLast_of_resolve hplace
      obtain ⟨above, rfl, rfl⟩ := Progress.places_of_sidePath hname hplace hside
      rw [List.dropLast_concat] at hparent
      refine ht.move (by simp) (by simp) (by rwa [List.dropLast_concat]) fun hprefix => ?_
      have hle := hprefix.length_le
      simp at hle
  | error cause =>
      rcases rename_host h with ⟨_, -, hno, -⟩ | ⟨_, -, rfl⟩
      · cases hno
      · exact ht

/--
A machine whose entries all lie in directories keeps what a file system promises about every file at
a path that ends in a name, with no `..` in it and no slash behind it.
-/
theorem keeps (hname : path.fileName? = some n) (hdots : ".." ∉ path.steps)
    (hslash : endsInSlash path = false) :
    (host.within fun s => s.tree.Grounded).Keeps path where
  look_makeDirs {dir _ s _} hparent h := by
    have hmake := Act.eq_of_within (fun _ _ => grounded_of_makeDirs s.2) h
    obtain ⟨tree, hdug, hs⟩ := dug_of_makeDirs hmake
    refine look_congr ?_
    rw [hs]
    exact hdug.entry?_eq s.2 hname hdots hparent
  look_write {_ _ s _} h := by
    have hwrite := Act.eq_of_within (fun _ _ => grounded_of_writeText s.2) h
    refine look_congr ?_
    rcases writeText_host hwrite with ⟨tree, hwrite, -, hs⟩ | ⟨_, -, hs⟩
    · obtain ⟨side, hside, hwritten⟩ := written_of_eq hwrite
      rw [hs]
      exact hwritten.entry?_eq fun place hplace => Progress.ne_of_sidePath hname hplace hside
    · rw [hs]
  look_written {text s s'} h := by
    have hwrite := Act.eq_of_within (fun _ _ => grounded_of_writeText s.2) h
    rcases writeText_host hwrite with ⟨tree, hwrite, -, hs⟩ | ⟨_, hno, -⟩
    · obtain ⟨side, hside, hwritten⟩ := written_of_eq hwrite
      obtain ⟨i, hfile⟩ := hwritten.file
      have hentry : s'.1.tree.entry? (Progress.sidePath path) = some (.file i text.toUTF8) := by
        rw [hs]
        exact entry?_eq_some_iff.2 ⟨side, hwritten.keepsDirectories.resolve hside, hfile⟩
      rw [Host.look_within, look_eq, hentry, Option.map_some, Entry.text_toUTF8]
    · cases hno
  look_renamed {s _} h := by
    have hrename := Act.eq_of_within (fun _ _ => grounded_of_rename hname hdots hslash s.2) h
    obtain ⟨names, place, e, hside, hget, -, -, hplace, hget'⟩ :=
      moved_of_rename hname hdots hslash hrename
    rw [Host.look_within, Host.look_within, look_eq, look_eq,
      entry?_eq_some_iff.2 ⟨place, hplace, hget'⟩, entry?_eq_some_iff.2 ⟨names, hside, hget⟩]
  look_unrenamed {_ s _} h := by
    have hrename := Act.eq_of_within (fun _ _ => grounded_of_rename hname hdots hslash s.2) h
    rcases rename_host hrename with ⟨_, -, hno, -⟩ | ⟨_, -, hs⟩
    · cases hno
    · rw [Host.look_within, Host.look_within, hs]

/-- The path of the progress in a project. -/
example : (host.within fun s => s.tree.Grounded).Keeps (Config.standard ⟨"/kata"⟩).progressPath :=
  keeps (n := "progress.toml") (by decide +kernel) (by decide +kernel) (by decide +kernel)

end Sandbox
end Trainer
