import Mathlib
import Trainer.Proofs.Path

/-!
# The parent of a path

A path that ends in a name has a parent, which has the components but the last one
(`exists_parent?`).  So a name that is joined to a directory is a child of it (`isChild_join`).

A parent is cut out of the text: idle parts at the end, the last part, and idle parts before it are
dropped.  What is left has the front that the text had (`splitFront_cut`), as it does not end in an
idle part, and it has the parts of the text but for the last one (`parts_of_parent?`).
-/

namespace Trainer
namespace Path

variable {cs : List Char} {kept : List Part} {p q : Path}

/-! ## Parts without the idle ones at the end -/

theorem reverse_dropIdle_reverse (ps : List Part) :
    (dropIdle ps.reverse).reverse = ps.rdropWhile isIdle := rfl

/-- Idle parts name nothing, so they can be dropped. -/
theorem filter_rdropWhile_isIdle (ps : List Part) :
    (ps.rdropWhile isIdle).filter (fun part => !isIdle part) =
      ps.filter fun part => !isIdle part := by
  induction ps using List.reverseRecOn with
  | nil => rfl
  | append_singleton ps part ih =>
      cases hpart : isIdle part with
      | true =>
          rw [List.rdropWhile_concat_pos _ _ _ hpart, List.filter_append, List.filter_singleton,
            hpart]
          simpa using ih
      | false => rw [List.rdropWhile_concat_neg _ _ _ (by simp [hpart])]

/-! ## Putting parts behind a front -/

/-- What is left of a text when parts at its end are dropped has the same front. -/
theorem splitFront_cut (hkept : kept <+: Chars.splitAt '/' (splitFront cs).2)
    (hlast : ∀ part ∈ kept.getLast?, isIdle part = false) :
    splitFront ((splitFront cs).1 ++ joinParts kept) = ((splitFront cs).1, joinParts kept) := by
  by_cases hslash : ∃ rest, cs = '/' :: rest
  · obtain ⟨rest, rfl⟩ := hslash
    rfl
  by_cases hdot : cs = ['.']
  · subst hdot
    -- There is only one part, and it is idle.
    cases kept with
    | nil => rfl
    | cons part rest =>
        obtain ⟨rfl, hrest⟩ := List.cons_prefix_cons.1 hkept
        obtain rfl := List.prefix_nil.1 hrest
        exact absurd (hlast [] rfl) (by decide)
  by_cases hcurrent : ∃ rest, cs = '.' :: '/' :: rest
  · obtain ⟨rest, rfl⟩ := hcurrent
    -- The first part is idle, so the slash after it is kept too.
    cases kept with
    | nil => rfl
    | cons part others =>
        obtain ⟨rfl, -⟩ := List.cons_prefix_cons.1 hkept
        cases others with
        | nil => exact absurd (hlast [] rfl) (by decide)
        | cons other others => rfl
  · have hplain : splitFront cs = ([], cs) :=
      splitFront_plain (fun rest hrest => hslash ⟨rest, hrest⟩) hdot
        fun rest hrest => hcurrent ⟨rest, hrest⟩
    rw [hplain] at hkept ⊢
    cases kept with
    | nil => rfl
    | cons part rest =>
        obtain ⟨dropped, hdropped⟩ := hkept
        have htext := joinParts_splitAt cs
        rw [← hdropped, List.cons_append] at htext
        obtain ⟨tail, htail, hends⟩ := exists_joinParts_cons part (rest ++ dropped)
        rw [htail] at htext
        have hmem : part ∈ Chars.splitAt '/' cs := by simp [← hdropped]
        -- The text begins with the first part, which is neither empty nor a dot.
        have hpart : part ≠ [] ∧ part ≠ ['.'] := by
          constructor
          · rintro rfl
            rcases hends with rfl | ⟨more, rfl⟩
            · -- The text is empty, and its only part is idle.
              obtain rfl : cs = [] := htext.symm
              obtain rfl : rest = [] := (List.append_eq_nil_iff.1 (List.cons.inj hdropped).2).1
              exact absurd (hlast [] rfl) (by decide)
            · exact hslash ⟨more, htext.symm⟩
          · rintro rfl
            rcases hends with rfl | ⟨more, rfl⟩
            · exact hdot htext.symm
            · exact hcurrent ⟨more, htext.symm⟩
        obtain ⟨tail', htail', -⟩ := exists_joinParts_cons part rest
        rw [List.nil_append, htail']
        simpa [IsPlain] using
          isPlain_append hpart.1 (Chars.not_mem_of_mem_splitAt hmem) hpart.2 tail'

/-- Parts taken from the front of a path are parts again when they are joined. -/
theorem parts_joinParts_of_prefix (hkept : kept <+: Chars.splitAt '/' cs) :
    parts (joinParts kept) = kept.filter fun part => !isIdle part := by
  cases kept with
  | nil => rfl
  | cons part rest =>
      rw [parts, splitAt_joinParts (List.cons_ne_nil part rest)]
      intro other hother
      exact Chars.not_mem_of_mem_splitAt (hkept.subset hother)

/-- A path cut behind some of its parts leads through those and no further. -/
theorem components_cut (hkept : kept <+: Chars.splitAt '/' (splitFront cs).2)
    (hlast : ∀ part ∈ kept.getLast?, isIdle part = false) :
    (Path.mk (String.ofList ((splitFront cs).1 ++ joinParts kept))).components =
      lead cs ++ (kept.filter fun part => !isIdle part).map componentOf := by
  rw [components_eq, String.toList_ofList, lead, splitFront_cut hkept hlast,
    parts_joinParts_of_prefix hkept]
  rfl

/-! ## The parent -/

/-- What is left of a body when its last part is cut off, and the idle parts around it. -/
theorem cut_of_dropIdle {body : List Char} {last : Part} {before : List Part}
    (h : dropIdle (Chars.splitAt '/' body).reverse = last :: before) :
    (dropIdle before).reverse <+: Chars.splitAt '/' body ∧
      (∀ part ∈ (dropIdle before).reverse.getLast?, isIdle part = false) ∧
      parts body = ((dropIdle before).reverse.filter fun part => !isIdle part) ++ [last] := by
  have hkept : (dropIdle before).reverse = before.reverse.rdropWhile isIdle := by
    rw [← reverse_dropIdle_reverse, List.reverse_reverse]
  have hcut : (Chars.splitAt '/' body).rdropWhile isIdle = before.reverse ++ [last] := by
    rw [← reverse_dropIdle_reverse, h, List.reverse_cons]
  have hlast : isIdle last = false := by
    have hne : (Chars.splitAt '/' body).rdropWhile isIdle ≠ [] := by simp [hcut]
    simpa [hcut] using List.rdropWhile_last_not isIdle _ hne
  rw [hkept]
  refine ⟨?_, fun part hpart => ?_, ?_⟩
  · calc
      before.reverse.rdropWhile isIdle <+: before.reverse := List.rdropWhile_prefix isIdle _
      _ <+: before.reverse ++ [last] := List.prefix_append _ _
      _ = (Chars.splitAt '/' body).rdropWhile isIdle := hcut.symm
      _ <+: Chars.splitAt '/' body := List.rdropWhile_prefix isIdle _
  · obtain ⟨hne, rfl⟩ := List.mem_getLast?_eq_getLast hpart
    simpa using List.rdropWhile_last_not isIdle _ hne
  · rw [filter_rdropWhile_isIdle, parts, ← filter_rdropWhile_isIdle, hcut, List.filter_append,
      List.filter_singleton, hlast]
    rfl

/-- A body whose parts are all passed over says nothing. -/
theorem parts_of_dropIdle_eq_nil {body : List Char}
    (h : dropIdle (Chars.splitAt '/' body).reverse = []) : parts body = [] := by
  rw [parts, ← filter_rdropWhile_isIdle, ← reverse_dropIdle_reverse, h]
  rfl

/-- A path whose components end in a name has the path of the others as its parent. -/
theorem exists_parent? {n : String} {init : List Component}
    (h : p.components = init ++ [.name n]) : ∃ q, p.parent? = some q ∧ q.components = init := by
  rw [components_eq] at h
  cases hdrop : dropIdle (Chars.splitAt '/' (splitFront p.text.toList).2).reverse with
  | nil =>
      -- What stands in front is no name.
      have hmem : Component.name n ∈ lead p.text.toList := by
        rw [parts_of_dropIdle_eq_nil hdrop, List.map_nil, List.append_nil] at h
        simp [h]
      unfold lead at hmem
      split at hmem
      all_goals simp at hmem
  | cons last before =>
      obtain ⟨hkept, hlast, hparts⟩ := cut_of_dropIdle hdrop
      -- The parent is what stands before the last part, behind the same front.
      refine ⟨⟨String.ofList ((splitFront p.text.toList).1 ++
        joinParts (dropIdle before).reverse)⟩, by simp only [parent?, hdrop], ?_⟩
      rw [components_cut hkept hlast]
      rw [hparts, List.map_append, ← List.append_assoc] at h
      exact (List.append_inj' h rfl).1

/-- A parent starts where the path starts, and names what the path names but for the last part. -/
theorem parts_of_parent? (h : p.parent? = some q) : q.isAbsolute = p.isAbsolute ∧
    parts q.text.toList = (parts p.text.toList).dropLast := by
  rw [isAbsolute_eq, isAbsolute_eq, ← parts_splitFront, ← parts_splitFront p.text.toList]
  cases hdrop : dropIdle (Chars.splitAt '/' (splitFront p.text.toList).2).reverse with
  | nil =>
      simp only [parent?, hdrop] at h
      split at h
      · rename_i hfront
        cases h
        rw [hfront, parts_of_dropIdle_eq_nil hdrop]
        exact ⟨rfl, rfl⟩
      · cases h
  | cons last before =>
      obtain ⟨hkept, hlast, hparts⟩ := cut_of_dropIdle hdrop
      simp only [parent?, hdrop, Option.some.injEq] at h
      rw [← h, String.toList_ofList, splitFront_cut hkept hlast, hparts, List.dropLast_concat,
        parts_joinParts_of_prefix hkept]
      exact ⟨rfl, rfl⟩

/-! ## Children -/

/-- A path is a child of a directory: it ends in a name, and its parent is the directory. -/
structure IsChild (dir : Path) (n : String) (p : Path) : Prop where
  fileName : p.fileName? = some n
  parent : ∃ q, p.parent? = some q ∧ q.same dir = true

/-- A directory joined with a name is the path of a child of it. -/
theorem isChild_join {n : String} (h : IsName n) (dir : Path) : IsChild dir n (dir.join n) := by
  obtain ⟨q, hq, hsame⟩ := exists_parent? (components_join_name h dir)
  exact ⟨fileName?_join h dir, q, hq, beq_iff_eq.2 hsame⟩

end Path
end Trainer
