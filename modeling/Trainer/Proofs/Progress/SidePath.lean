import Mathlib
import Trainer.Progress
import Trainer.Proofs.FileTree.Walk

/-!
# The path of the side file

The file that is written first lies beside the stored one: the two paths go the same way and differ
in the last name only (`sidePath_steps`).  The side file's name is the stem of the other name with an
ending that has a dot in it; what follows the last dot of a name has none, so the two names are never
one (`sideName_ne`).  So in no tree do the two paths lead to one place (`place_ne_of_sidePath`).
-/

namespace Trainer

namespace Path

/-! ## Parts put together -/

theorem joinParts_append {ps qs : List Part} (hps : ps ≠ []) (hqs : qs ≠ []) :
    joinParts (ps ++ qs) = joinParts ps ++ '/' :: joinParts qs := by
  induction ps with
  | nil => exact absurd rfl hps
  | cons p ps ih =>
      cases ps with
      | nil => exact joinParts_cons hqs p
      | cons q ps =>
          rw [List.cons_append, joinParts_cons (by simp), ih (List.cons_ne_nil _ _),
            joinParts_cons (List.cons_ne_nil _ _), List.append_assoc, List.cons_append]

/-- What stands in front of a body that starts with a part that is not idle. -/
theorem splitFront_of_not_idle {cs : List Char} {part : Part} {parts : List Part}
    (h : Chars.splitAt '/' (splitFront cs).2 = part :: parts) (hpart : isIdle part = false) :
    (splitFront cs).1 = [] ∨ (splitFront cs).1 = ['/'] := by
  unfold splitFront at h ⊢
  split at h
  · exact .inr rfl
  · cases h
    cases hpart
  · cases h
    cases hpart
  · exact .inl rfl

/-- The last name of a path among its parts; only idle ones come after it. -/
theorem splitAt_of_fileName? {p : Path} {n : String} (h : p.fileName? = some n) :
    ∃ before idles, Chars.splitAt '/' (splitFront p.text.toList).2 = before ++ n.toList :: idles ∧
      ∀ part ∈ idles, isIdle part = true := by
  have hlast : p.components.getLast? = some (.name n) := by
    unfold fileName? at h
    split at h
    · rename_i hlast
      cases h
      exact hlast
    · cases h
  rw [components_eq] at hlast
  rcases List.eq_nil_or_concat' (parts (splitFront p.text.toList).2) with hnone | ⟨init, last, hparts⟩
  · -- What stands in front is no name.
    rw [hnone, List.map_nil, List.append_nil, lead] at hlast
    split at hlast
    all_goals simp at hlast
  · -- The last part that is not idle is the name; the filter has passed over those after it.
    rw [hparts, List.map_append, List.map_singleton, ← List.append_assoc,
      List.getLast?_concat] at hlast
    have hname : last = n.toList := by
      have hcomponent := Option.some.inj hlast
      unfold componentOf at hcomponent
      split at hcomponent
      · cases hcomponent
      · rw [← Component.name.inj hcomponent, String.toList_ofList]
    obtain ⟨before, rest, hsplit, -, hrest⟩ := List.filter_eq_append_iff.1 hparts
    obtain ⟨idles, after, rfl, hidles, -, hafter⟩ := List.filter_eq_cons_iff.1 hrest
    refine ⟨before ++ idles, after, ?_, ?_⟩
    · rw [hsplit, hname, List.append_assoc]
    · simpa using hafter

/-- A path that ends in a name, and the same path with another extension. -/
theorem text_of_fileName? {p : Path} {n : String} (h : p.fileName? = some n) :
    ∃ front idles, (front = [] ∨ ∃ before, front = before ++ ['/']) ∧
      (∀ part ∈ idles, isIdle part = true) ∧
      p.text.toList = front ++ joinParts (n.toList :: idles) ∧
      ∀ ext : String, (p.withExtension ext).text.toList =
        front ++ ((splitName n.toList).1 ++ '.' :: ext.toList) := by
  have hname := isName_of_fileName? h
  obtain ⟨before, idles, hsplit, hidles⟩ := splitAt_of_fileName? h
  have hbody := joinParts_splitAt (splitFront p.text.toList).2
  rw [hsplit] at hbody
  have htext : p.text.toList =
      (splitFront p.text.toList).1 ++ joinParts (before ++ n.toList :: idles) := by
    rw [hbody, splitFront_append]
  have hdots : n.toList ≠ ['.', '.'] := fun hdots => hname.ne_dots (String.toList_inj.1 hdots)
  have hdrop : dropIdle (Chars.splitAt '/' (splitFront p.text.toList).2).reverse =
      n.toList :: before.reverse := by
    rw [hsplit, List.reverse_append, List.reverse_cons, List.append_assoc, dropIdle,
      List.dropWhile_append_of_pos fun part hpart => hidles part (List.mem_reverse.1 hpart),
      List.singleton_append, List.dropWhile_cons_of_neg]
    simp [hname.not_isIdle]
  have hext (ext : String) : (p.withExtension ext).text.toList =
      (splitFront p.text.toList).1 ++ joinParts (before ++ [(splitName n.toList).1]) ++
        '.' :: ext.toList := by
    simp [withExtension, hdrop, hdots]
  -- The slash in front of the name is that of the whole path if no part comes before the name.
  by_cases hbefore : before = []
  · subst hbefore
    refine ⟨(splitFront p.text.toList).1, idles, ?_, hidles, htext, fun ext => ?_⟩
    · rcases splitFront_of_not_idle hsplit hname.not_isIdle with hfront | hfront
      · exact .inl hfront
      · exact .inr ⟨[], hfront⟩
    · rw [hext ext, List.append_assoc]
      rfl
  · refine ⟨(splitFront p.text.toList).1 ++ joinParts before ++ ['/'], idles, .inr ⟨_, rfl⟩, hidles,
      ?_, fun ext => ?_⟩
    · refine htext.trans ?_
      rw [joinParts_append hbefore (List.cons_ne_nil _ _)]
      simp
    · rw [hext ext, joinParts_concat hbefore]
      simp

/-- What stands in front of the last name is followed in the same way, whatever comes then. -/
theorem exists_steps {front : List Char} (h : front = [] ∨ ∃ before, front = before ++ ['/']) :
    ∃ way, ∀ (p : Path) (cs : List Char), p.text.toList = front ++ cs →
      p.steps = way ++ (Chars.splitAt '/' cs).map String.ofList := by
  rcases h with rfl | ⟨before, rfl⟩
  · refine ⟨[], fun p cs hp => ?_⟩
    rw [steps, hp]
    rfl
  · refine ⟨(Chars.splitAt '/' before).map String.ofList, fun p cs hp => ?_⟩
    rw [steps, hp, List.append_assoc, List.singleton_append, Chars.splitAt_append_sep,
      List.map_append]

/-- A text that ends in a name after a slash, or is a name, is a path that ends in that name. -/
theorem fileName?_of_text {front : List Char} (h : front = [] ∨ ∃ before, front = before ++ ['/'])
    {p : Path} {m : String} (hm : IsName m) (hp : p.text.toList = front ++ m.toList) :
    p.fileName? = some m := by
  have hlast : ∃ cs, p.components = cs ++ [.name m] := by
    rcases h with rfl | ⟨before, rfl⟩
    · have hplain : splitFront p.text.toList = ([], m.toList) := by
        rw [hp]
        exact hm.isPlain
      exact ⟨[], by rw [components_eq, lead, hplain, hm.map_parts]⟩
    · have hsplit : p.text.toList = before ++ '/' :: m.toList := by simpa using hp
      have hq : (Path.mk (String.ofList (before ++ ['/']))).text.toList = before ++ ['/'] := by simp
      refine ⟨(Path.mk (String.ofList (before ++ ['/']))).components, ?_⟩
      rw [components_append_slash hsplit hq, hm.map_parts]
  obtain ⟨cs, hcs⟩ := hlast
  rw [fileName?, hcs, List.getLast?_concat]

/-- Whether a text is absolute is decided by what stands in front of its last name. -/
theorem isAbsolute_of_text {front : List Char} (h : front = [] ∨ ∃ before, front = before ++ ['/'])
    {p : Path} {m : String} (hm : IsName m) {rest : List Char}
    (hp : p.text.toList = front ++ (m.toList ++ rest)) :
    p.isAbsolute = (front.head? == some '/') := by
  rw [isAbsolute, hp]
  rcases h with rfl | ⟨before, rfl⟩
  · -- A name does not start with a slash.
    have hhead := hm.isPlain.head_ne_slash
    have hne : m.toList ≠ [] := by simpa using hm.ne_empty
    rw [List.nil_append, List.head?_append_of_ne_nil _ hne]
    simpa using hhead
  · rw [List.head?_append_of_ne_nil _ (by simp)]

/-! ## The stem of a name -/

/-- A name is its stem, or it goes on after it with a dot and what has none in it. -/
theorem splitName_fst (name : List Char) : (splitName name).1 = name ∨
    ∃ ending, '.' ∉ ending ∧ name = (splitName name).1 ++ '.' :: ending := by
  rw [splitName]
  split
  · exact .inl rfl
  · rename_i hstem
    refine .inr ⟨(name.reverse.takeWhile (· != '.')).reverse, fun hdot => ?_, ?_⟩
    · simpa using List.mem_takeWhile_imp (List.mem_reverse.1 hdot)
    · -- What is left of the reversed name after the ending starts with the dot.
      have hsplit : name.reverse.takeWhile (· != '.') ++ name.reverse.dropWhile (· != '.') =
          name.reverse := List.takeWhile_append_dropWhile
      have hhead := List.head?_dropWhile_not (· != '.') name.reverse
      generalize name.reverse.takeWhile (· != '.') = ending at hsplit hstem ⊢
      generalize name.reverse.dropWhile (· != '.') = left at hsplit hhead
      have hdrop : name.reverse.drop (ending.length + 1) = left.drop 1 := by
        rw [← hsplit, ← List.drop_drop, List.drop_left]
      rw [hdrop] at hstem ⊢
      cases left with
      | nil => simp at hstem
      | cons c rest =>
          have hc : c = '.' := by simpa using hhead
          rw [← List.reverse_reverse name, ← hsplit, hc]
          simp

/-! ## The name of the side file -/

/-- The name of the file that is written beside the one of a name. -/
def sideName (n : String) : String :=
  String.ofList (splitName n.toList).1 ++ "." ++ "toml.tmp"

/-- The side file is called like the file, with another ending. -/
theorem toList_sideName (n : String) :
    (sideName n).toList = (splitName n.toList).1 ++ '.' :: "toml.tmp".toList := by
  simp [sideName]

/-- The side file is not the file. -/
theorem sideName_ne (n : String) : sideName n ≠ n := by
  intro h
  have hlist := congrArg String.toList h
  rw [toList_sideName] at hlist
  rcases splitName_fst n.toList with hstem | ⟨ending, hdot, hstem⟩
  · rw [hstem] at hlist
    simp at hlist
  · have hsame := hlist.trans hstem
    simp only [List.append_cancel_left_eq, List.cons.injEq, true_and] at hsame
    exact hdot (by simp [← hsame])

theorem IsName.sideName {n : String} (hn : IsName n) : IsName (sideName n) := by
  have hlist := toList_sideName n
  have hshort : ∀ m : String, m.toList.length < 3 → Path.sideName n ≠ m := by
    rintro m hm rfl
    rw [hlist, List.length_append] at hm
    simp at hm
    omega
  refine ⟨?_, hshort "" (by simp), hshort "." (by simp), hshort ".." (by simp)⟩
  intro hslash
  rw [hlist, List.mem_append] at hslash
  rcases hslash with hslash | hslash
  · -- The stem is a part of the name.
    rcases splitName_fst n.toList with hstem | ⟨ending, -, hstem⟩
    · exact hn.slash (hstem ▸ hslash)
    · exact hn.slash (by rw [hstem]; exact List.mem_append_left _ hslash)
  · simp at hslash

end Path

/-! ## The path of the side file -/

namespace Progress

open Trainer.Path

variable {path : Path} {n : String}

/-- The two paths go the same way; one ends in the name, the other one in the name beside it. -/
theorem sidePath_steps (h : path.fileName? = some n) :
    ∃ way idles, path.steps = way ++ n :: idles ∧ (∀ part ∈ idles, part = "" ∨ part = ".") ∧
      (sidePath path).steps = way ++ [sideName n] := by
  have hname := isName_of_fileName? h
  obtain ⟨front, idles, hfront, hidles, htext, hside⟩ := text_of_fileName? h
  obtain ⟨way, hway⟩ := exists_steps hfront
  have hslash : ∀ part ∈ n.toList :: idles, '/' ∉ part := by
    intro part hpart
    rcases List.mem_cons.1 hpart with rfl | hpart
    · exact hname.slash
    · rcases isIdle_iff.1 (hidles part hpart) with rfl | rfl <;> simp
  refine ⟨way, idles.map String.ofList, ?_, ?_, ?_⟩
  · rw [hway path _ htext, splitAt_joinParts (List.cons_ne_nil _ _) hslash, List.map_cons,
      String.ofList_toList]
  · intro part hpart
    obtain ⟨idle, hmem, rfl⟩ := List.mem_map.1 hpart
    rcases isIdle_iff.1 (hidles idle hmem) with rfl | rfl
    · exact .inl rfl
    · exact .inr rfl
  · have hsplit := Chars.splitAt_of_not_mem hname.sideName.slash
    rw [toList_sideName] at hsplit
    rw [hway (sidePath path) _ (hside "toml.tmp"), hsplit, ← toList_sideName, List.map_singleton,
      String.ofList_toList]

/-- The side file of an absolute path has an absolute path. -/
theorem isAbsolute_sidePath (h : path.fileName? = some n) :
    (sidePath path).isAbsolute = path.isAbsolute := by
  have hname := isName_of_fileName? h
  obtain ⟨front, idles, hfront, -, htext, hside⟩ := text_of_fileName? h
  obtain ⟨rest, hrest⟩ : ∃ rest, joinParts (n.toList :: idles) = n.toList ++ rest := by
    cases idles with
    | nil => exact ⟨[], (List.append_nil _).symm⟩
    | cons idle idles => exact ⟨_, joinParts_cons (List.cons_ne_nil _ _) _⟩
  rw [hrest] at htext
  have htext' : (sidePath path).text.toList = front ++ ((sideName n).toList ++ []) := by
    rw [List.append_nil, toList_sideName]
    exact hside "toml.tmp"
  rw [isAbsolute_of_text hfront hname htext, isAbsolute_of_text hfront hname.sideName htext']

theorem fileName?_sidePath (h : path.fileName? = some n) :
    (sidePath path).fileName? = some (sideName n) := by
  obtain ⟨front, idles, hfront, -, -, hside⟩ := text_of_fileName? h
  refine fileName?_of_text hfront (isName_of_fileName? h).sideName ?_
  rw [toList_sideName]
  exact hside "toml.tmp"

/-- The side file's path is another path. -/
theorem same_sidePath_eq_false (h : path.fileName? = some n) :
    (sidePath path).same path = false := by
  rw [Bool.eq_false_iff]
  intro hsame
  have hnames := fileName?_congr hsame
  rw [fileName?_sidePath h, h] at hnames
  exact sideName_ne n (Option.some.inj hnames)

/-- Where the two paths lead: to two names in one directory. -/
theorem places_of_sidePath (h : path.fileName? = some n) {t : FileTree} {place side : List String}
    (hplace : t.resolve path = .ok place) (hside : t.resolve (sidePath path) = .ok side) :
    ∃ dir, place = dir ++ [n] ∧ side = dir ++ [sideName n] := by
  have hname := isName_of_fileName? h
  obtain ⟨way, idles, hsteps, hidles, hsteps'⟩ := sidePath_steps h
  have hwalk := (FileTree.resolve_eq_ok_iff.1 hplace).2
  have hwalk' := (FileTree.resolve_eq_ok_iff.1 hside).2
  have horigin : t.origin (sidePath path) = t.origin path := by
    rw [FileTree.origin, FileTree.origin, isAbsolute_sidePath h]
  rw [hsteps, FileTree.walk_append_eq_ok_iff] at hwalk
  rw [hsteps', horigin, FileTree.walk_append_eq_ok_iff] at hwalk'
  obtain ⟨dir, hway, hrest⟩ := hwalk
  obtain ⟨dir', hway', hrest'⟩ := hwalk'
  -- The way is the same up to the last name.
  rw [hway] at hway'
  cases hway'
  obtain ⟨next, hnext, hidle⟩ := FileTree.walk_cons_eq_ok_iff.1 hrest
  obtain ⟨next', hnext', hend⟩ := FileTree.walk_cons_eq_ok_iff.1 hrest'
  refine ⟨dir, ?_, ?_⟩
  · rw [FileTree.walk_idle hidles hidle, FileTree.step_name hname hnext]
  · rw [← Except.ok.inj hend, FileTree.step_name hname.sideName hnext']

/-- In no tree is the place of the side file that of the stored one, or below it. -/
theorem not_prefix_of_sidePath (h : path.fileName? = some n) {t : FileTree}
    {place side : List String} (hplace : t.resolve path = .ok place)
    (hside : t.resolve (sidePath path) = .ok side) : ¬ place <+: side := by
  obtain ⟨dir, rfl, rfl⟩ := places_of_sidePath h hplace hside
  intro hprefix
  have hsame := hprefix.eq_of_length (by simp)
  exact sideName_ne n (by simpa using hsame.symm)

/-- The side file and the file stand at two places. -/
theorem ne_of_sidePath (h : path.fileName? = some n) {t : FileTree} {place side : List String}
    (hplace : t.resolve path = .ok place) (hside : t.resolve (sidePath path) = .ok side) :
    place ≠ side := by
  rintro rfl
  exact not_prefix_of_sidePath h hplace hside (List.prefix_refl _)

end Progress
end Trainer
