import Mathlib
import Trainer.Mismatch
import Trainer.Proofs.LineDiff.Compact
import Trainer.Proofs.Text.Lines
import Trainer.Proofs.Text.Trimming

/-!
# Reports tell two texts apart

The report on an output that is not the expected one lists both texts line by line and ends with a
diff.  Both texts can be read off the diff, which has a piece in which they differ
(`Mismatch.exists_faithful`).

## The argument

* The pieces of a text put together are the text (`flatten_pieces`), and each of them ends in a line
  end if the text does (`endsLine_of_mem_pieces`).
* Whatever script the diff is made of, it leads from the pieces of one text to those of the other,
  and the signs keep both (`without_signedFrom`), so the diff tells the two texts (`tells_diff`).
* The end of the report is trimmed.  The last piece of the diff ends the text that it comes from, so
  in front of its newline there is the end of a trimmed text, or nothing but a sign; and that sign
  is no blank unless both texts are empty (`Tells.exists_diffText_eq`).
-/

namespace Trainer
namespace Mismatch

/-! ## Pieces -/

/-- A text with a line end at its end, and hence not empty. -/
def EndsLine (cs : List Char) : Prop :=
  ∃ front c, cs = front ++ [c] ∧ (c = '\r' ∨ c = '\n')

theorem flatten_pieceFrom (acc cs : List Char) :
    (pieceFrom acc cs).flatten = acc.reverse ++ cs := by
  fun_induction pieceFrom acc cs with
  | case1 acc hempty => simp [List.isEmpty_iff.1 hempty]
  | case2 acc hsome => simp
  | case3 acc rest ih => simp [ih]
  | case4 acc c rest hreturn hend ih => simp [ih]
  | case5 acc c rest hreturn hmore ih => simp [ih]

theorem flatten_pieces (cs : List Char) : (pieces cs).flatten = cs :=
  flatten_pieceFrom [] cs

theorem mem_getLast?_rest {c x : Char} {front rest : List Char} (h : x ∈ rest.getLast?) :
    x ∈ (front ++ c :: rest).getLast? :=
  List.mem_getLast?_append_of_mem_getLast? (List.mem_getLast?_cons h)

/-- In a text that ends with a line break, every piece does. -/
theorem endsLine_of_mem_pieceFrom (acc cs : List Char) {p : List Char}
    (hend : ∀ c ∈ (acc.reverse ++ cs).getLast?, c = '\n') (hp : p ∈ pieceFrom acc cs) :
    EndsLine p := by
  fun_induction pieceFrom acc cs with
  | case1 acc hempty => cases hp
  | case2 acc hsome =>
      -- A piece that is left open ends as the whole text does.
      obtain ⟨c, acc, rfl⟩ := List.exists_cons_of_ne_nil (mt List.isEmpty_iff.2 hsome)
      rw [List.mem_singleton.1 hp]
      exact ⟨acc.reverse, c, by simp, .inr (hend c (by simp))⟩
  | case3 acc rest ih =>
      rcases List.mem_cons.1 hp with rfl | hp
      · exact ⟨acc.reverse ++ ['\r'], '\n', by simp, .inr rfl⟩
      · refine ih (fun c hc => ?_) hp
        exact hend c (mem_getLast?_rest (List.mem_getLast?_cons hc))
  | case4 acc c rest hreturn hc ih =>
      rcases List.mem_cons.1 hp with rfl | hp
      · exact ⟨acc.reverse, c, by simp, hc⟩
      · refine ih (fun x hx => ?_) hp
        exact hend x (mem_getLast?_rest hx)
  | case5 acc c rest hreturn hc ih =>
      refine ih (fun x hx => ?_) hp
      rw [List.reverse_cons, List.append_assoc] at hx
      exact hend x hx

/-- The pieces of a text that ends in a newline. -/
theorem endsLine_of_mem_pieces {cs p : List Char} (hp : p ∈ pieces (cs ++ ['\n'])) :
    EndsLine p :=
  endsLine_of_mem_pieceFrom [] _ (by simp) hp

/-! ## Signs -/

variable {β : Type}

/-- What is left of a diff without the items of one sign. -/
def without (sign : Sign) (ps : List (Sign × β)) : List β :=
  (ps.filter fun p => p.1 != sign).map (·.2)

@[simp]
theorem without_append (sign : Sign) (ps qs : List (Sign × β)) :
    without sign (ps ++ qs) = without sign ps ++ without sign qs := by
  simp [without]

@[simp]
theorem without_signed (sign other : Sign) (xs : List β) :
    without sign (xs.map (other, ·)) = if other = sign then [] else xs := by
  by_cases h : other = sign
  · simp [without, List.filter_map, Function.comp_def, h]
  · simp [without, List.filter_map, Function.comp_def, h]

/-- The signs keep what a script starts from and what it arrives at. -/
theorem without_signedFrom (s : Script β) : ∀ removed added : List β,
    without .added (signedFrom removed added s) = removed ++ s.source ∧
      without .removed (signedFrom removed added s) = added ++ s.target := by
  induction s with
  | nil =>
      intro removed added
      simp [signedFrom, Script.source, Script.target]
  | cons e rest ih =>
      intro removed added
      cases e with
      | keep xs =>
          have hrest := ih [] []
          constructor
          · simp [signedFrom, hrest.1, Script.source]
          · simp [signedFrom, hrest.2, Script.target]
      | delete xs =>
          have hrest := ih (removed ++ xs) added
          rw [signedFrom, hrest.1, hrest.2, List.append_assoc]
          exact ⟨rfl, rfl⟩
      | insert xs =>
          have hrest := ih removed (added ++ xs)
          rw [signedFrom, hrest.1, hrest.2, List.append_assoc]
          exact ⟨rfl, rfl⟩

/-- All items of a diff are kept ones if there are no others. -/
theorem without_of_kept {ps : List (Sign × β)} (h : ∀ p ∈ ps, p.1 = .kept) {sign : Sign}
    (hsign : sign ≠ .kept) : without sign ps = ps.map (·.2) := by
  have hall : ps.filter (fun p => p.1 != sign) = ps := by
    refine List.filter_eq_self.2 fun p hp => ?_
    rw [h p hp]
    simpa using hsign.symm
  rw [without, hall]

/-! ## Diffs -/

/-- Signed pieces from which two texts can be read off. -/
structure Tells (ps : List (Sign × List Char)) (expected actual : List Char) : Prop where
  expected : without .added ps = pieces (expected ++ ['\n'])
  actual : without .removed ps = pieces (actual ++ ['\n'])

/-- A diff tells its two texts, as its script leads from the pieces of one to those of the other. -/
theorem tells_diff (expected actual : List Char) :
    Tells (diff expected actual) expected actual := by
  have hleads := (Script.leads_between (pieces (expected ++ ['\n']))
    (pieces (actual ++ ['\n']))).compact
  have hsides := without_signedFrom (Script.compact
    (Script.between (pieces (expected ++ ['\n'])) (pieces (actual ++ ['\n'])))) [] []
  rw [hleads.source, hleads.target] at hsides
  exact ⟨hsides.1, hsides.2⟩

variable {expected actual : List Char} {ps : List (Sign × List Char)}

/-- Without the additions the pieces are the expected text, without the removals the actual one. -/
theorem Tells.flatten (h : Tells ps expected actual) :
    (without .added ps).flatten = expected ++ ['\n'] ∧
      (without .removed ps).flatten = actual ++ ['\n'] := by
  rw [h.expected, h.actual, flatten_pieces, flatten_pieces]
  exact ⟨rfl, rfl⟩

/-- Texts that differ leave a piece that is not kept. -/
theorem Tells.exists_signed (h : Tells ps expected actual) (hne : expected ≠ actual) :
    ∃ p ∈ ps, p.1 ≠ .kept := by
  by_contra hnone
  have hkept : ∀ p ∈ ps, p.1 = .kept := by
    simpa using hnone
  have hflat := h.flatten
  rw [without_of_kept hkept (by decide), without_of_kept hkept (by decide)] at hflat
  exact hne (List.append_cancel_right (hflat.1.symm.trans hflat.2))

/-! ## The end of a report -/

/-- Whole lines do not make up a trimmed text, unless it is empty. -/
theorem flatten_eq_nil {ws : List (List Char)} (hws : ∀ w ∈ ws, EndsLine w)
    (htrimmed : Chars.Trimmed ws.flatten) : ws.flatten = [] := by
  rcases List.eq_nil_or_concat' ws with rfl | ⟨init, w, rfl⟩
  · rfl
  · obtain ⟨front, c, rfl, hc⟩ := hws w (by simp)
    have hblank : Chars.isBlank c = false := htrimmed.last c (by simp)
    rcases hc with rfl | rfl
    · exact absurd hblank (by decide)
    · exact absurd hblank (by decide)

/-- The last piece of a trimmed text ends as the text does, unless the text is empty. -/
theorem last_piece {text w : List Char} {ws : List (List Char)} (htext : Chars.Trimmed text)
    (hlines : ∀ p ∈ ws ++ [w], EndsLine p) (hflat : (ws ++ [w]).flatten = text ++ ['\n']) :
    (∃ rest c, w = rest ++ [c, '\n'] ∧ Chars.isBlank c = false) ∨ w = ['\n'] ∧ text = [] := by
  obtain ⟨body, e, rfl, -⟩ := hlines w (by simp)
  rw [List.flatten_concat, ← List.append_assoc] at hflat
  obtain ⟨hbody, hnewline⟩ := List.append_inj' hflat rfl
  rw [hnewline]
  rcases List.eq_nil_or_concat' body with rfl | ⟨rest, c, rfl⟩
  · rw [List.append_nil] at hbody
    rw [← hbody] at htext
    have hnil := flatten_eq_nil (fun p hp => hlines p (List.mem_append_left _ hp)) htext
    exact .inr ⟨rfl, hbody.symm.trans hnil⟩
  · refine .inl ⟨rest, c, by simp, htext.last c ?_⟩
    rw [← hbody]
    simp

theorem without_concat {sign out : Sign} (h : sign ≠ out) (ps : List (Sign × β)) (w : β) :
    without out (ps ++ [(sign, w)]) = without out ps ++ [w] := by
  simp [without, h]

theorem isBlank_sign {sign : Sign} (h : sign ≠ .kept) : Chars.isBlank sign.char = false := by
  cases sign with
  | kept => exact absurd rfl h
  | removed => decide
  | added => decide

/-- In front of the newline that ends the diff of two trimmed texts there is no blank. -/
theorem Tells.exists_diffText_eq (h : Tells ps expected actual)
    (hexpected : Chars.Trimmed expected) (hactual : Chars.Trimmed actual)
    (hne : expected ≠ actual) :
    ∃ front c, diffText ps = front ++ [c, '\n'] ∧ Chars.isBlank c = false := by
  obtain ⟨hflatE, hflatA⟩ := h.flatten
  obtain ⟨hpiecesE, hpiecesA⟩ := h
  rcases List.eq_nil_or_concat' ps with rfl | ⟨init, ⟨sign, w⟩, rfl⟩
  · exact absurd hflatE (by simp [without])
  have hlast (text : List Char) (out : Sign) (hout : sign ≠ out) (htext : Chars.Trimmed text)
      (hflat : (without out (init ++ [(sign, w)])).flatten = text ++ ['\n'])
      (hpieces : without out (init ++ [(sign, w)]) = pieces (text ++ ['\n'])) :
      (∃ rest c, w = rest ++ [c, '\n'] ∧ Chars.isBlank c = false) ∨ w = ['\n'] ∧ text = [] := by
    rw [without_concat hout] at hflat hpieces
    refine last_piece htext (fun p hp => ?_) hflat
    rw [hpieces] at hp
    exact endsLine_of_mem_pieces hp
  -- A piece that ends in a character before its newline will do, and so will a sign before it.
  have hsides : (∃ rest c, w = rest ++ [c, '\n'] ∧ Chars.isBlank c = false) ∨
      w = ['\n'] ∧ sign ≠ .kept := by
    cases sign with
    | removed =>
        rcases hlast expected .added (by decide) hexpected hflatE hpiecesE with hw | ⟨hw, -⟩
        · exact .inl hw
        · exact .inr ⟨hw, by decide⟩
    | added =>
        rcases hlast actual .removed (by decide) hactual hflatA hpiecesA with hw | ⟨hw, -⟩
        · exact .inl hw
        · exact .inr ⟨hw, by decide⟩
    | kept =>
        rcases hlast expected .added (by decide) hexpected hflatE hpiecesE with hw | ⟨-, hE⟩
        · exact .inl hw
        rcases hlast actual .removed (by decide) hactual hflatA hpiecesA with hw | ⟨-, hA⟩
        · exact .inl hw
        -- A newline that is kept on its own would stand behind two empty texts.
        exact absurd (hE.trans hA.symm) hne
  rcases hsides with ⟨rest, c, rfl, hc⟩ | ⟨rfl, hsign⟩
  · exact ⟨diffText init ++ sign.char :: rest, c, by simp [diffText], hc⟩
  · exact ⟨diffText init, sign.char, by simp [diffText], isBlank_sign hsign⟩

/-! ## Reports -/

/-- The lines of a text, each indented, or a word that there are none. -/
def Lists (text listing : List Char) : Prop :=
  (text = [] ∧ listing = "  (empty)\n".toList) ∨
    (text ≠ [] ∧ ∃ lines, Chars.LinesOf text lines ∧
      listing = lines.flatMap fun line => "  ".toList ++ line ++ ['\n'])

/-- Indentation lists a text line by line. -/
theorem lists_indented (text : List Char) : Lists text (indented text) := by
  unfold indented
  split
  · rename_i hempty
    exact .inl ⟨List.isEmpty_iff.1 hempty, rfl⟩
  · rename_i hsome
    exact .inr ⟨mt List.isEmpty_iff.2 hsome, _, Chars.linesOf_lines text, rfl⟩

/-- The parts of a report. -/
structure Parts where
  expected : List Char
  actual : List Char
  diff : List (Sign × List Char)

/-- A report with its parts in their places. -/
def Parts.text (p : Parts) : List Char :=
  "Output did not match.\n\nExpected:\n".toList ++ p.expected ++ "\nActual:\n".toList ++
    p.actual ++ "\nDiff:\n".toList ++ diffText p.diff

/-- The parts of a report are about these two texts. -/
structure Parts.Faithful (p : Parts) (expected actual : List Char) : Prop where
  listsExpected : Lists expected p.expected
  listsActual : Lists actual p.actual
  /-- The pieces that are kept or removed make up the expected text and a newline. -/
  restoresExpected : (without .added p.diff).flatten = expected ++ ['\n']
  /-- The pieces that are kept or added make up the actual text and a newline. -/
  restoresActual : (without .removed p.diff).flatten = actual ++ ['\n']
  differs : ∃ x ∈ p.diff, x.1 ≠ .kept

/-- The parts of the report on two trimmed texts. -/
def partsOf (expected actual : List Char) : Parts :=
  ⟨indented expected, indented actual, diff expected actual⟩

/-- The report shows both texts, and what differs in them. -/
theorem faithful_partsOf (hne : expected ≠ actual) :
    (partsOf expected actual).Faithful expected actual where
  listsExpected := lists_indented expected
  listsActual := lists_indented actual
  restoresExpected := (tells_diff expected actual).flatten.1
  restoresActual := (tells_diff expected actual).flatten.2
  differs := (tells_diff expected actual).exists_signed hne

/-- A report is its parts but for the newline that ends the diff. -/
theorem reportTrimmed_append (hexpected : Chars.Trimmed expected) (hactual : Chars.Trimmed actual)
    (hne : expected ≠ actual) :
    reportTrimmed expected actual ++ ['\n'] = (partsOf expected actual).text := by
  obtain ⟨front, c, hdiff, hc⟩ :=
    (tells_diff expected actual).exists_diffText_eq hexpected hactual hne
  unfold reportTrimmed
  exact Chars.trimEnd_append_newline hc hdiff _

/-- The report on two outputs that differ by more than the blanks at their ends. -/
theorem exists_faithful {expected actual : String} (hne : Text.trim expected ≠ Text.trim actual) :
    ∃ p : Parts, p.Faithful (Text.trim expected).toList (Text.trim actual).toList ∧
      (report expected actual).toList ++ ['\n'] = p.text := by
  rw [Ne, ← String.toList_inj, Text.toList_trim, Text.toList_trim] at hne
  rw [Text.toList_trim, Text.toList_trim, report, String.toList_ofList]
  exact ⟨_, faithful_partsOf hne, reportTrimmed_append (Chars.trimmed_trim _)
    (Chars.trimmed_trim _) hne⟩

end Mismatch
end Trainer
