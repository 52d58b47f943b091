import Mathlib
import Trainer.Proofs.FileTree.Walk

/-!
# What changes a tree

What the changes of a tree that succeed do to it, each said once:

* making directories leaves all that was there and adds directories only (`Dug.grows`), also if it
  is broken off (`dig_dug`);
* writing a file changes what stands at its own place (`written_of_eq`);
* giving a file another name moves it there, and nothing else changes (`renamed_of_eq`).

All of them keep a tree grounded.  Neither writing nor renaming takes a directory away, so paths
lead where they led before.
-/

namespace Trainer
namespace FileTree

variable {t t' : FileTree} {p : Path} {names other : List String} {bytes : ByteArray}

theorem get?_put_eq (hne : names ≠ []) (e : Entry) (other : List String) :
    (t.put names e).get? other = if other = names then some e else t.get? other := by
  split
  · rename_i hother
    rw [hother, get?_put t e hne]
  · rename_i hother
    exact get?_put_of_ne t e hother

/-- A tree stays grounded when something is put in a directory, in the place of no directory. -/
theorem Grounded.put (ht : t.Grounded) (hne : names ≠ [])
    (hparent : t.get? names.dropLast = some .directory) (hplace : t.get? names ≠ some .directory)
    (e : Entry) : (t.put names e).Grounded := by
  -- The place itself is no directory that anything lies in.
  have hkept : ∀ other, t.get? other = some .directory →
      (t.put names e).get? other = some .directory := by
    intro other hother
    have hne : other ≠ names := by
      rintro rfl
      exact hplace hother
    rw [get?_put_of_ne t e hne, hother]
  intro x hx
  rcases List.mem_cons.1 hx with rfl | hx
  · exact hkept _ hparent
  · exact hkept _ (ht x (List.mem_of_mem_filter hx))

theorem ne_nil_of_get?_ne (h : t.get? names ≠ some .directory) : names ≠ [] := by
  rintro rfl
  exact h (get?_nil t)

/-! ## Making directories -/

theorem makeDir_eq_ok (h : t.makeDir p = .ok t') :
    ∃ names, t.newPlace p = .ok names ∧ t.get? names = none ∧ t' = t.put names .directory := by
  unfold makeDir at h
  split at h
  · cases h
  · rename_i names hplace
    split at h
    · cases h
    · rename_i hfree
      exact ⟨names, hplace, hfree, (Except.ok.inj h).symm⟩

/-- A new directory takes nothing away and uncovers no file. -/
theorem grows_of_makeDir (h : t.makeDir p = .ok t') : Grows t t' := by
  obtain ⟨names, -, hfree, rfl⟩ := makeDir_eq_ok h
  have hne : names ≠ [] := ne_nil_of_get?_ne (by rw [hfree]; exact nofun)
  refine ⟨fun other e he => ?_, fun other i bytes hf => ?_, rfl⟩
  · have hother : other ≠ names := by
      rintro rfl
      rw [hfree] at he
      cases he
    rw [get?_put_of_ne t _ hother, he]
  · rw [get?_put_eq hne] at hf
    split at hf
    · cases hf
    · exact hf

theorem Grounded.makeDir (ht : t.Grounded) (h : t.makeDir p = .ok t') : t'.Grounded := by
  obtain ⟨names, hplace, hfree, rfl⟩ := makeDir_eq_ok h
  have hnot : t.get? names ≠ some .directory := by rw [hfree]; exact nofun
  obtain ⟨q, hq⟩ := exists_newPlace_eq t p
  rw [hq] at hplace
  exact ht.put (ne_nil_of_get?_ne hnot) (ht.get?_dropLast_of_resolve hplace) hnot _

/-- A tree in which some of a directory, and of those it lies in, have been made. -/
inductive Dug : Path → FileTree → FileTree → Prop where
  | none {p : Path} {t : FileTree} : Dug p t t
  | above {p above : Path} {t t' : FileTree} : p.parent? = some above → Dug above t t' → Dug p t t'
  | made {p : Path} {t t' t'' : FileTree} : Dug p t t' → t'.makeDir p = .ok t'' → Dug p t t''

/-- However deep the digging goes, all it has done is to make some of the directories. -/
theorem digWithin_dug (t : FileTree) (p : Path) (depth : Nat) :
    Dug p t (t.digWithin p depth).2 := by
  induction depth generalizing p with
  | zero => exact .none
  | succ depth ih =>
      rw [digWithin]
      split
      · exact .none
      · split
        · rename_i hmade
          exact .made .none hmade
        · split
          · exact .none
          · rename_i above habove
            have hdug := ih above
            split
            · rename_i hdig
              rw [hdig] at hdug
              exact .above habove hdug
            · rename_i hdig
              rw [hdig] at hdug
              split
              · rename_i hmade
                exact .made (.above habove hdug) hmade
              · split
                · exact .above habove hdug
                · exact .above habove hdug
        · split
          · exact .none
          · exact .none

/-- However making directories ends, some of them have been made. -/
theorem dig_dug (t : FileTree) (p : Path) : Dug p t (t.dig p).2 :=
  digWithin_dug t p _

/-- All that was there is there still, and no file has come along. -/
theorem Dug.grows (h : Dug p t t') : Grows t t' := by
  induction h with
  | none => exact .refl _
  | above _ _ ih => exact ih
  | made _ hmade ih => exact ih.trans (grows_of_makeDir hmade)

/-- Every directory that was made lies in one. -/
theorem Dug.grounded (h : Dug p t t') (ht : t.Grounded) : t'.Grounded := by
  induction h with
  | none => exact ht
  | above _ _ ih => exact ih ht
  | made _ hmade ih => exact (ih ht).makeDir hmade

/-! ## Writing a file -/

/-- The second tree is the first one with a file written at a place where no directory was. -/
structure Written (names : List String) (bytes : ByteArray) (t t' : FileTree) : Prop where
  file : ∃ i, t'.get? names = some (.file i bytes)
  elsewhere (other : List String) : other ≠ names → t'.get? other = t.get? other
  before : t.get? names ≠ some .directory
  workingDir : t'.workingDir = t.workingDir
  grounded : t.Grounded → t'.Grounded

theorem written_put (hplace : t.resolve p = .ok names) (hbefore : t.get? names ≠ some .directory)
    (i : Nat) : Written names bytes t (t.put names (.file i bytes)) := by
  have hne := ne_nil_of_get?_ne hbefore
  refine ⟨⟨i, get?_put t _ hne⟩, fun other hother => get?_put_of_ne t _ hother, hbefore, rfl, ?_⟩
  exact fun ht => ht.put hne (ht.get?_dropLast_of_resolve hplace) hbefore _

/-- A file that is written stands where its path leads. -/
theorem written_of_eq (h : t.writeBytes p bytes = .ok t') :
    ∃ names, t.resolve p = .ok names ∧ Written names bytes t t' := by
  unfold writeBytes at h
  split at h
  · cases h
  · rename_i names hplace
    split at h
    · cases h
    · rename_i hslash
      rw [newPlace_of_endsInSlash_eq_false (Bool.eq_false_of_not_eq_true hslash)] at hplace
      split at h
      · cases h
      · rename_i i _ hget
        cases h
        exact ⟨names, hplace, written_put hplace (by rw [hget]; exact nofun) i⟩
      · rename_i hget
        cases h
        -- A file that is made takes the next identity besides.
        have hput : Written names bytes t (t.put names (.file t.nextIdentity bytes)) :=
          written_put hplace (by rw [hget]; exact nofun) _
        exact ⟨names, hplace, hput.file, hput.elsewhere, hput.before, hput.workingDir,
          hput.grounded⟩

/-- A file that is written takes no directory's place. -/
theorem Written.keepsDirectories (h : Written names bytes t t') : KeepsDirectories t t' := by
  refine ⟨fun other hother => ?_, h.workingDir⟩
  rw [h.elsewhere other fun heq => h.before (heq ▸ hother), hother]

theorem Written.keepsDirectories_symm (h : Written names bytes t t') : KeepsDirectories t' t := by
  refine ⟨fun other hother => ?_, h.workingDir.symm⟩
  rw [← h.elsewhere other ?_, hother]
  rintro rfl
  obtain ⟨i, hfile⟩ := h.file
  rw [hfile] at hother
  cases hother

/-- A path that does not lead to the place that was written leads to what it led to before. -/
theorem Written.entry?_eq (h : Written names bytes t t')
    (hne : ∀ place, t.resolve p = .ok place → place ≠ names) : t'.entry? p = t.entry? p := by
  refine Option.ext fun e => ?_
  rw [entry?_eq_some_iff, entry?_eq_some_iff]
  constructor
  · rintro ⟨place, hresolve, hget⟩
    have hbefore := h.keepsDirectories_symm.resolve hresolve
    exact ⟨place, hbefore, by rw [← h.elsewhere place (hne place hbefore), hget]⟩
  · rintro ⟨place, hresolve, hget⟩
    exact ⟨place, h.keepsDirectories.resolve hresolve,
      by rw [h.elsewhere place (hne place hresolve), hget]⟩

/-- Writing a file leaves the contents at paths that lead elsewhere as they were. -/
theorem Written.contents?_eq (h : Written names bytes t t')
    (hne : ∀ place, t.resolve p = .ok place → place ≠ names) :
    t'.contents? p = t.contents? p := by
  rw [FileTree.contents?_eq, FileTree.contents?_eq, h.entry?_eq hne]

/-! ## Moving a file -/

section Moving

variable {source target : List String}

/-- The entries below a place under the names that they get below another one. -/
def moved (source target : List String) (entries : List (List String × Entry)) :
    List (List String × Entry) :=
  entries.filterMap fun x =>
    if source.isPrefixOf x.1 then some (target ++ x.1.drop source.length, x.2) else none

theorem move_entries (t : FileTree) (source target : List String) :
    (t.move source target).entries =
      moved source target t.entries ++ ((t.cut source).cut target).entries := rfl

/-- What is found below the new place is what was below the old one. -/
theorem lookup_moved (entries : List (List String × Entry)) (rest : List String) :
    (moved source target entries).lookup (target ++ rest) = entries.lookup (source ++ rest) := by
  induction entries with
  | nil => rfl
  | cons x entries ih =>
      obtain ⟨place, e⟩ := x
      -- An entry below the source is looked up by what follows the source in its names.
      by_cases hplace : source <+: place
      · obtain ⟨more, rfl⟩ := hplace
        have hsame : (target ++ rest == target ++ more) = (source ++ rest == source ++ more) := by
          simp
        have hcons : moved source target ((source ++ more, e) :: entries) =
            (target ++ more, e) :: moved source target entries := by
          simp [moved]
        rw [hcons, List.lookup_cons, List.lookup_cons, hsame, ih]
      · have hne : (source ++ rest == place) = false :=
          beq_false_of_ne fun heq => hplace (heq ▸ List.prefix_append _ _)
        have hcons : moved source target ((place, e) :: entries) = moved source target entries := by
          simp [moved, hplace]
        rw [hcons, List.lookup_cons, hne, ih]

theorem lookup_moved_elsewhere (hnames : ¬ target <+: names)
    (entries : List (List String × Entry)) : (moved source target entries).lookup names = none := by
  rw [List.lookup_eq_none_iff]
  intro x hx
  obtain ⟨y, -, hy⟩ := List.mem_filterMap.1 hx
  split at hy
  · cases hy
    exact bne_iff_ne.2 fun heq => hnames (heq ▸ List.prefix_append _ _)
  · cases hy

/-- What was cut away is not found any more, and everything else is. -/
theorem lookup_cut (t : FileTree) (place names : List String) :
    (t.cut place).entries.lookup names =
      if place <+: names then none else t.entries.lookup names := by
  change (t.entries.filter fun x => !place.isPrefixOf x.1).lookup names = _
  induction t.entries with
  | nil => simp
  | cons x entries ih =>
      rw [List.filter_cons]
      by_cases hkey : place <+: x.1
      · have hcut : place.isPrefixOf x.1 = true := List.isPrefixOf_iff_prefix.2 hkey
        rw [hcut, Bool.not_true, if_neg Bool.false_ne_true, ih]
        split
        · rfl
        · rename_i hnames
          have hne : names ≠ x.1 := by
            rintro rfl
            exact hnames hkey
          rw [List.lookup_cons, beq_false_of_ne hne]
      · have hkept : place.isPrefixOf x.1 = false := by
          rw [Bool.eq_false_iff, ne_eq, List.isPrefixOf_iff_prefix]
          exact hkey
        rw [hkept, Bool.not_false, if_pos rfl, List.lookup_cons, List.lookup_cons, ih]
        by_cases heq : names = x.1
        · rw [heq, if_neg hkey, if_neg hkey]
        · rw [beq_false_of_ne heq]

theorem get?_move_append (htarget : target ≠ []) (hsource : source ≠ []) (rest : List String) :
    (t.move source target).get? (target ++ rest) = t.get? (source ++ rest) := by
  rw [get?, get?, if_neg (by simp [htarget]), if_neg (by simp [hsource]), move_entries,
    List.lookup_append, lookup_moved, lookup_cut, if_pos (List.prefix_append _ _), Option.or_none]

/-- What is moved stands at its new place. -/
theorem get?_move_self (htarget : target ≠ []) (hsource : source ≠ []) :
    (t.move source target).get? target = t.get? source := by
  simpa using get?_move_append (t := t) htarget hsource []

/-- Away from the new place, all that was below the old one is gone, and the rest is as it was. -/
theorem get?_move_elsewhere (hsource : source ≠ []) (hnames : ¬ target <+: names) :
    (t.move source target).get? names = if source <+: names then none else t.get? names := by
  by_cases hroot : names = []
  · subst hroot
    simp [hsource]
  · rw [get?, get?, if_neg hroot, if_neg hroot, move_entries, List.lookup_append,
      lookup_moved_elsewhere hnames, lookup_cut, if_neg hnames, lookup_cut, Option.none_or]

/-- A directory is not at or below a place where no directory is. -/
theorem Grounded.not_below (ht : t.Grounded) (hplace : t.get? source ≠ some .directory)
    (hdir : t.get? names = some .directory) : ¬ source <+: names := by
  rintro ⟨rest, rfl⟩
  by_cases hrest : rest = []
  · rw [hrest, List.append_nil] at hdir
    exact hplace hdir
  · rw [ht.get?_append hplace hrest] at hdir
    cases hdir

/-- A file that is moved, in the place of no directory, leaves all directories where they are. -/
theorem Grounded.keepsDirectories_move (ht : t.Grounded)
    (hsource : t.get? source ≠ some .directory) (htarget : t.get? target ≠ some .directory) :
    KeepsDirectories t (t.move source target) := by
  refine ⟨fun names hdir => ?_, rfl⟩
  rw [get?_move_elsewhere (ne_nil_of_get?_ne hsource) (ht.not_below htarget hdir),
    if_neg (ht.not_below hsource hdir), hdir]

/-- A tree stays grounded when something is moved to a directory that is not moved with it. -/
theorem Grounded.move (ht : t.Grounded) (hsource : source ≠ []) (htarget : target ≠ [])
    (hparent : t.get? target.dropLast = some .directory) (hbelow : ¬ source <+: target.dropLast) :
    (t.move source target).Grounded := by
  intro x hx
  rw [move_entries, List.mem_append] at hx
  rcases hx with hx | hx
  · obtain ⟨y, hy, hmoved⟩ := List.mem_filterMap.1 hx
    split at hmoved
    · rename_i hprefix
      obtain ⟨rest, hrest⟩ := List.isPrefixOf_iff_prefix.1 hprefix
      cases hmoved
      have hdir := ht y hy
      rw [← hrest] at hdir
      rw [← hrest, List.drop_left]
      by_cases hnil : rest = []
      · -- What was moved lies in the directory it was moved to.
        have hnot : ¬ target <+: target.dropLast := fun h => by
          have hle := h.length_le
          have hpos := List.length_pos_iff.2 htarget
          rw [List.length_dropLast] at hle
          omega
        rw [hnil, List.append_nil, get?_move_elsewhere hsource hnot, if_neg hbelow, hparent]
      · rw [List.dropLast_append_of_ne_nil hnil] at hdir ⊢
        rw [get?_move_append htarget hsource, hdir]
    · cases hmoved
  · have hcut := List.mem_filter.1 hx
    have hcut' := List.mem_filter.1 hcut.1
    -- What was left where it is lies in a directory that was left there too.
    have hdir := ht x hcut'.1
    have hnot {place : List String} (hplace : (!place.isPrefixOf x.1) = true) :
        ¬ place <+: x.1.dropLast := fun h => by
      have habove := List.isPrefixOf_iff_prefix.2 (h.trans (List.dropLast_prefix x.1))
      rw [habove] at hplace
      cases hplace
    rw [get?_move_elsewhere hsource (hnot hcut.2), if_neg (hnot hcut'.2), hdir]

end Moving

/-- What it takes to give an entry another name; only a directory can take a directory's place. -/
theorem rename_eq_ok {source target : Path} (h : t.rename source target = .ok t') :
    ∃ names e place, t.resolve source = .ok names ∧ t.get? names = some e ∧
      t.newPlace target = .ok place ∧
      (e ≠ .directory → t.get? place ≠ some .directory ∧ endsInSlash target = false) ∧
      t' = if names = place then t else t.move names place := by
  unfold rename at h
  split at h
  · cases h
  · rename_i names e hlookup
    obtain ⟨hsource, hget⟩ := lookup_eq_ok_iff.1 hlookup
    split at h
    · cases h
    · rename_i place hplace
      refine ⟨names, e, place, hsource, hget, hplace, ?_⟩
      split at h
      · cases h
      · rename_i hnot
        split at h
        · cases h
        · rename_i hslash
          refine ⟨fun _ => ⟨hnot, Bool.eq_false_of_not_eq_true hslash⟩, ?_⟩
          split at h
          · rename_i heq
            rw [if_pos heq, Except.ok.inj h]
          · rename_i hne
            rw [if_neg hne, Except.ok.inj h]
      · cases h
      · refine ⟨fun hno => absurd rfl hno, ?_⟩
        split at h
        · rename_i heq
          rw [if_pos heq, Except.ok.inj h]
        · rename_i hne
          rw [if_neg hne, Except.ok.inj h]

/-- What it takes to give a file another name. -/
theorem rename_file_eq_ok {source target : Path} {i : Nat} (hsource : t.resolve source = .ok names)
    (hfile : t.get? names = some (.file i bytes)) (h : t.rename source target = .ok t') :
    ∃ place, t.resolve target = .ok place ∧ t.get? place ≠ some .directory ∧
      t' = if names = place then t else t.move names place := by
  obtain ⟨names', e, place, hsource', hget, hplace, hfree, hmove⟩ := rename_eq_ok h
  cases hsource.symm.trans hsource'
  cases hfile.symm.trans hget
  obtain ⟨hnot, hslash⟩ := hfree nofun
  rw [newPlace_of_endsInSlash_eq_false hslash] at hplace
  exact ⟨place, hplace, hnot, hmove⟩

/--
A file that gets another name, not above its old one, stands under the new one, and no longer under
the old one.
-/
theorem renamed_of_eq (ht : t.Grounded) {source target : Path} {i : Nat}
    (hsource : t.resolve source = .ok names) (hfile : t.get? names = some (.file i bytes))
    (habove : ∀ place, t.resolve target = .ok place → ¬ place <+: names)
    (h : t.rename source target = .ok t') :
    t'.contents? target = some bytes ∧ t'.exists? source = false := by
  obtain ⟨place, htarget, hnot, hmove⟩ := rename_file_eq_ok hsource hfile h
  have hbelow := habove place htarget
  have hne : names ≠ place := fun heq => hbelow (heq ▸ List.prefix_refl _)
  rw [if_neg hne] at hmove
  subst hmove
  have hdir : t.get? names ≠ some .directory := by rw [hfile]; exact nofun
  have hkeeps := ht.keepsDirectories_move hdir hnot
  have hnames := ne_nil_of_get?_ne hdir
  constructor
  · have hget : (t.move names place).get? place = some (.file i bytes) := by
      rw [get?_move_self (ne_nil_of_get?_ne hnot) hnames, hfile]
    exact contents?_eq_some_iff.2 ⟨place, i, hkeeps.resolve htarget, hget⟩
  · have hget : (t.move names place).get? names = none := by
      rw [get?_move_elsewhere hnames hbelow, if_pos (List.prefix_refl _)]
    rw [Bool.eq_false_iff]
    intro hthere
    obtain ⟨names', e, hresolve, he⟩ := exists?_eq_true_iff.1 hthere
    rw [hkeeps.resolve hsource] at hresolve
    cases hresolve
    rw [hget] at he
    cases he

end FileTree
end Trainer
