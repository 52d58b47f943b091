import Mathlib
import Trainer.Proofs.Marker

/-!
# Filling places in a text

A place is a word between braces with a text to put there (`Place`).  `fill` puts all texts in at
once: it goes through the text from left to right, and what it has put in it does not look at again.
`fillEach` fills one place after the other, so that each pass goes through what the passes before it
have put in.

The texts that are put in are sealed: they have no brace, or they stand between single quotes.
Then the two agree on every text exactly when no place is *disturbed* by one that is filled after
it: neither lies in its text the mark of the other, nor its text in that mark
(`fillEach_eq_fill_iff`).

* One more pass adds its place to those that are filled at once, when it disturbs none of them
  (`fill_fill`).
* A pass that finds its mark in what has been put in leaves a trace that no later pass removes:
  where the mark began there is no brace any more (`Marred`).
* A place that disturbs a later one is met by a text with its mark in it, alone or where its text
  would complete the later mark (`fillEach_ne_fill`).
-/

namespace Trainer
namespace Chars

/-- A text out of which no mark can reach: it has no brace, or it stands between quotes. -/
inductive Sealed : List Char → Prop where
  | bare {cs : List Char} : cs ≠ [] → '{' ∉ cs → '}' ∉ cs → Sealed cs
  | quoted (inner : List Char) : Sealed ('\'' :: (inner ++ ['\'']))

/-- A word that stands between braces, and the text to put there. -/
structure Place where
  word : List Char
  value : List Char
  brace_not_mem : '{' ∉ word
  closing_not_mem : '}' ∉ word
  quote_not_mem : '\'' ∉ word
  sealed_value : Sealed value

namespace Place

/-- The word between its braces. -/
def mark (p : Place) : List Char :=
  '{' :: (p.word ++ ['}'])

/-- A place that is filled before another one has nothing in common with that one's mark. -/
structure Apart (p q : Place) : Prop where
  mark_not_in_value : ¬ q.mark <:+: p.value
  value_not_in_mark : ¬ p.value <:+: q.mark

/-! ## Marks -/

variable {p q : Place} {rest : List Char}

theorem quote_not_mem_mark (p : Place) : '\'' ∉ p.mark := by
  simp [mark, p.quote_not_mem]

theorem brace_not_mem_tail (p : Place) : '{' ∉ p.word ++ ['}'] := by
  simp [p.brace_not_mem]

/-- Marks are told apart by their words, whatever follows them. -/
theorem word_eq_of_prefix_mark (h : p.mark <+: q.mark ++ rest) : p.word = q.word := by
  have htail : p.word ++ ['}'] <+: q.word ++ '}' :: rest := by
    simpa [mark] using h
  have hword : p.word <+: q.word :=
    prefix_of_prefix_append_cons q.word p.closing_not_mem
      ((List.prefix_append p.word ['}']).trans htail)
  rcases hword with ⟨more, hmore⟩
  rw [← hmore, List.append_assoc, List.prefix_append_right_inj] at htail
  -- What is left of the other word would have to begin with the closing brace.
  cases more with
  | nil => simpa using hmore
  | cons c more =>
      have hc : '}' = c := (List.cons_prefix_cons.1 htail).1
      have hmem : '}' ∈ q.word := by
        rw [← hmore, hc]
        simp
      exact absurd hmem q.closing_not_mem

end Place

open Place

/-! ## Filling all places at once -/

/-- The place whose mark stands at the front of a text. -/
def markAt (ps : List Place) (cs : List Char) : Option Place :=
  ps.find? fun p => p.mark.isPrefixOf cs

/-- Fills all places; `skip` counts the characters of a mark that are still to be passed over. -/
def fillFrom (ps : List Place) : Nat → List Char → List Char
  | _, [] => []
  | skip + 1, _ :: rest => fillFrom ps skip rest
  | 0, c :: rest =>
      match markAt ps (c :: rest) with
      | some p => p.value ++ fillFrom ps (p.mark.length - 1) rest
      | none => c :: fillFrom ps 0 rest

/-- Puts the text of a place wherever its mark stands, and keeps every other character. -/
def fill (ps : List Place) (cs : List Char) : List Char :=
  fillFrom ps 0 cs

/-- Fills one place after the other. -/
def fillEach (ps : List Place) (cs : List Char) : List Char :=
  ps.foldl (fun text p => replaceAll p.mark p.value text) cs

variable {ps : List Place} {p q : Place} {cs rest : List Char} {c : Char}

/-- No mark is read if none stands here. -/
theorem markAt_eq_none_iff : markAt ps cs = none ↔ ∀ p ∈ ps, ¬ p.mark <+: cs := by
  simp [markAt, List.isPrefixOf_iff_prefix]

/-- A mark that is read stands here, and is one of the places. -/
theorem exists_of_markAt (h : markAt ps cs = some p) : p ∈ ps ∧ ∃ rest, cs = p.mark ++ rest := by
  have hfront : p.mark <+: cs := by
    have hfound := List.find?_some h
    exact List.isPrefixOf_iff_prefix.1 hfound
  rcases hfront with ⟨rest, hrest⟩
  exact ⟨List.mem_of_find?_eq_some h, rest, hrest.symm⟩

/-- A mark is found where it stands if no other place has its word. -/
theorem markAt_mark (hp : p ∈ ps) (hwords : ∀ x ∈ ps, x.word = p.word → x = p)
    (rest : List Char) : markAt ps (p.mark ++ rest) = some p := by
  cases h : markAt ps (p.mark ++ rest) with
  | none =>
      have hno := markAt_eq_none_iff.1 h p hp
      exact absurd (List.prefix_append _ _) hno
  | some x =>
      obtain ⟨hx, tail, htail⟩ := exists_of_markAt h
      have hword : x.word = p.word := word_eq_of_prefix_mark ⟨tail, htail.symm⟩
      rw [hwords x hx hword]

/-- A mark begins with a brace. -/
theorem markAt_of_ne (hc : c ≠ '{') : markAt ps (c :: rest) = none := by
  rw [markAt_eq_none_iff]
  intro p _ hfront
  exact hc (List.cons_prefix_cons.1 hfront).1.symm

theorem fillFrom_eq (ps : List Place) (n : Nat) (cs : List Char) :
    fillFrom ps n cs = fill ps (cs.drop n) := by
  induction n generalizing cs with
  | zero => rfl
  | succ n ih =>
      cases cs with
      | nil => rfl
      | cons c rest => exact ih rest

theorem fill_nil (ps : List Place) : fill ps [] = [] := rfl

theorem fill_cons (h : markAt ps (c :: rest) = none) :
    fill ps (c :: rest) = c :: fill ps rest := by
  rw [fill, fillFrom, h]
  rfl

/-- A mark gives way to its value. -/
theorem fill_mark (h : markAt ps (p.mark ++ rest) = some p) :
    fill ps (p.mark ++ rest) = p.value ++ fill ps rest := by
  have hcons : p.mark ++ rest = '{' :: (p.word ++ '}' :: rest) := by
    simp [mark]
  have hdrop : (p.word ++ '}' :: rest).drop (p.mark.length - 1) = rest := by
    simp [mark]
  rw [hcons] at h ⊢
  rw [fill, fillFrom, h]
  simp only [fillFrom_eq, hdrop]

/-- A text is made of marks and of characters at which no mark begins. -/
theorem fill_induction (ps : List Place) {motive : List Char → Prop} (nil : motive [])
    (mark : ∀ p ∈ ps, ∀ rest, markAt ps (p.mark ++ rest) = some p → motive rest →
      motive (p.mark ++ rest))
    (other : ∀ c rest, markAt ps (c :: rest) = none → motive rest → motive (c :: rest))
    (cs : List Char) : motive cs := by
  induction hn : cs.length using Nat.strong_induction_on generalizing cs with
  | _ n ih =>
      cases cs with
      | nil => exact nil
      | cons c rest =>
          cases h : markAt ps (c :: rest) with
          | none => exact other c rest h (ih rest.length (by simp [← hn]) rest rfl)
          | some p =>
              obtain ⟨hp, tail, htail⟩ := exists_of_markAt h
              rw [htail] at h hn ⊢
              have hlt : tail.length < n := by
                rw [← hn, List.length_append]
                exact Nat.lt_add_of_pos_left (List.length_pos_iff.2 (List.cons_ne_nil _ _))
              exact mark p hp tail h (ih tail.length hlt tail rfl)

/-- Replacing one mark is filling one place. -/
theorem replaceAll_eq_fill (p : Place) (cs : List Char) :
    replaceAll p.mark p.value cs = fill [p] cs := by
  have hfrom : ∀ (n : Nat) (cs : List Char),
      replaceFrom p.mark p.value n cs = fillFrom [p] n cs := by
    intro n cs
    induction cs generalizing n with
    | nil => cases n <;> rfl
    | cons c rest ih =>
        cases n with
        | succ n => exact ih n
        | zero =>
            cases h : p.mark.isPrefixOf (c :: rest) with
            | true => simp [replaceFrom, fillFrom, markAt, h, ih]
            | false => simp [replaceFrom, fillFrom, markAt, h, ih]
  exact hfrom 0 cs

theorem fillEach_cons (p : Place) (ps : List Place) (cs : List Char) :
    fillEach (p :: ps) cs = fillEach ps (fill [p] cs) := by
  rw [fillEach, List.foldl_cons, replaceAll_eq_fill, fillEach]

/-- Places that are filled in turn are filled in two groups of turns. -/
theorem fillEach_append (ps qs : List Place) (cs : List Char) :
    fillEach (ps ++ qs) cs = fillEach qs (fillEach ps cs) := by
  rw [fillEach, List.foldl_append, fillEach, fillEach]

/-! ## What is put in -/

/-- No mark begins where there is no opening brace. -/
theorem fill_append_of_not_mem {front : List Char} (hfront : '{' ∉ front) (ps : List Place)
    (cs : List Char) : fill ps (front ++ cs) = front ++ fill ps cs := by
  induction front with
  | nil => rfl
  | cons c front ih =>
      rw [List.mem_cons, not_or] at hfront
      have hnone : markAt ps (c :: (front ++ cs)) = none := markAt_of_ne (Ne.symm hfront.1)
      rw [List.cons_append, fill_cons hnone, ih hfront.2, List.cons_append]

/-- No mark reaches over a single quote, so what stands before it is filled by itself. -/
theorem fill_append_quote {inner : List Char} (h : ∀ p ∈ ps, ¬ p.mark <:+: inner)
    (cs : List Char) : fill ps (inner ++ '\'' :: cs) = inner ++ '\'' :: fill ps cs := by
  induction inner with
  | nil => exact fill_cons (markAt_of_ne (by decide))
  | cons c inner ih =>
      have hnone : markAt ps (c :: (inner ++ '\'' :: cs)) = none := by
        rw [markAt_eq_none_iff]
        intro p hp hfront
        have hinner : p.mark <+: c :: inner :=
          prefix_of_prefix_append_cons (c :: inner) p.quote_not_mem_mark hfront
        exact h p hp hinner.isInfix
      have hrest : ∀ p ∈ ps, ¬ p.mark <:+: inner := by
        intro p hp hin
        exact h p hp (List.infix_cons_iff.2 (Or.inr hin))
      rw [List.cons_append, fill_cons hnone, ih hrest, List.cons_append]

/-- A sealed text in which no mark lies is passed over. -/
theorem fill_append_of_sealed {value : List Char} (hvalue : Sealed value)
    (h : ∀ p ∈ ps, ¬ p.mark <:+: value) (cs : List Char) :
    fill ps (value ++ cs) = value ++ fill ps cs := by
  cases hvalue with
  | bare _ hopen _ => exact fill_append_of_not_mem hopen ps cs
  | quoted inner =>
      have hinner : ∀ p ∈ ps, ¬ p.mark <:+: '\'' :: inner := by
        intro p hp hin
        have hall : '\'' :: inner <:+: '\'' :: (inner ++ ['\'']) :=
          (List.prefix_append ('\'' :: inner) ['\'']).isInfix
        exact h p hp (hin.trans hall)
      have hfill := fill_append_quote hinner cs
      simpa using hfill

/-- What is put in begins with another character than a mark. -/
theorem Place.exists_value_eq (p : Place) : ∃ c rest, p.value = c :: rest ∧ c ≠ '{' := by
  cases hvalue : p.value with
  | nil =>
      have hsealed := p.sealed_value
      rw [hvalue] at hsealed
      cases hsealed with
      | bare hne => exact absurd rfl hne
  | cons c rest =>
      refine ⟨c, rest, rfl, ?_⟩
      have hsealed := p.sealed_value
      rw [hvalue] at hsealed
      cases hsealed with
      | bare _ hopen => exact fun hc => hopen (by simp [hc])
      | quoted inner => decide

/-- A sealed text does not begin with the end of a mark unless it lies in it as a whole. -/
theorem Place.not_prefix_value {value word : List Char} (hvalue : Sealed value)
    (hword : word <:+ q.mark) (hne : word ≠ []) : ¬ word <+: value := by
  intro hfront
  have hquote : '\'' ∉ word := fun hmem => q.quote_not_mem_mark (hword.subset hmem)
  have hclosing : '}' ∈ word := by
    rcases hword with ⟨front, hfront⟩
    have hlast : (front ++ word).getLast? = some '}' := by
      rw [hfront, mark, ← List.cons_append, List.getLast?_concat]
    rw [List.getLast?_append_of_ne_nil front hne] at hlast
    exact List.mem_of_getLast? hlast
  cases hvalue with
  | bare _ _ hno => exact hno (hfront.subset hclosing)
  | quoted inner =>
      cases word with
      | nil => exact hne rfl
      | cons c rest =>
          have hc : c = '\'' := (List.cons_prefix_cons.1 hfront).1
          exact hquote (by simp [hc])

/-- The end of a mark is not made by what is put in: it was there before. -/
theorem prefix_of_prefix_fill (h : ∀ p ∈ ps, ¬ p.value <:+: q.mark) (cs : List Char) :
    ∀ word : List Char, word <:+ q.mark → word <+: fill ps cs → word <+: cs := by
  induction cs using fill_induction ps with
  | nil =>
      intro word _ hfront
      exact hfront
  | mark p hp rest hat ih =>
      intro word hword hfront
      rw [fill_mark hat] at hfront
      rcases List.prefix_or_prefix_of_prefix hfront (List.prefix_append _ _) with hin | hover
      · -- A word that the text begins with is empty.
        by_cases hne : word = []
        · simp [hne]
        · exact absurd hin (Place.not_prefix_value p.sealed_value hword hne)
      · exact absurd (hover.isInfix.trans hword.isInfix) (h p hp)
  | other c rest hat ih =>
      intro word hword hfront
      rw [fill_cons hat] at hfront
      cases word with
      | nil => exact List.nil_prefix
      | cons d word =>
          obtain ⟨hd, htail⟩ := List.cons_prefix_cons.1 hfront
          have hsuffix : word <:+ q.mark := (List.suffix_cons d word).trans hword
          exact List.cons_prefix_cons.2 ⟨hd, ih word hsuffix htail⟩

/-! ## One more pass -/

/-- One more pass adds its place to those that are filled at once, if it is apart from all. -/
theorem fill_fill (h : ∀ p ∈ ps, p.Apart q) (cs : List Char) :
    fill [q] (fill ps cs) = fill (ps ++ [q]) cs := by
  induction cs using fill_induction (ps ++ [q]) with
  | nil => rfl
  | mark p hp rest hat ih =>
      rw [fill_mark hat, ← ih]
      rw [markAt, List.find?_append] at hat
      cases hearly : markAt ps (p.mark ++ rest) with
      | some x =>
          -- The place was filled before; the pass goes over its text and finds nothing there.
          have hx : x = p := by
            rw [markAt] at hearly
            rw [hearly] at hat
            exact Option.some.inj hat
          subst hx
          have hmem := (exists_of_markAt hearly).1
          rw [fill_mark hearly]
          refine fill_append_of_sealed x.sealed_value ?_ _
          intro y hy
          rw [List.mem_singleton.1 hy]
          exact (h x hmem).mark_not_in_value
      | none =>
          -- The mark is the one of the pass; it was left as it is before.
          have hq : markAt [q] (p.mark ++ rest) = some p := by
            rw [markAt] at hearly
            rw [hearly] at hat
            exact hat
          have hpq : p = q := List.mem_singleton.1 (exists_of_markAt hq).1
          subst hpq
          have hkept : fill ps (p.mark ++ rest) = p.mark ++ fill ps rest := by
            have hcons : p.mark ++ rest = '{' :: (p.word ++ ['}'] ++ rest) := by
              simp [mark]
            rw [hcons] at hearly ⊢
            rw [fill_cons hearly, fill_append_of_not_mem p.brace_not_mem_tail]
            simp [mark]
          rw [hkept]
          exact fill_mark (markAt_mark (List.mem_singleton_self p) (by simp) _)
  | other c rest hat ih =>
      rw [fill_cons hat, ← ih]
      have hnone := markAt_eq_none_iff.1 hat
      have hearly : markAt ps (c :: rest) = none := by
        rw [markAt_eq_none_iff]
        exact fun p hp => hnone p (List.mem_append_left _ hp)
      rw [fill_cons hearly]
      refine fill_cons ?_
      rw [markAt_eq_none_iff]
      intro x hx hfront
      rw [List.mem_singleton.1 hx] at hfront
      obtain ⟨hc, htail⟩ := List.cons_prefix_cons.1 hfront
      -- A mark that is there now was there before.
      have hvalues : ∀ p ∈ ps, ¬ p.value <:+: q.mark := fun p hp => (h p hp).value_not_in_mark
      have hbefore : q.word ++ ['}'] <+: rest :=
        prefix_of_prefix_fill hvalues rest _ (List.suffix_cons '{' _) htail
      exact hnone q (by simp) (List.cons_prefix_cons.2 ⟨hc, hbefore⟩)

/-- If every place is apart from those after it, filling one by one is filling at once. -/
theorem fillEach_eq_fill (h : ps.Pairwise Apart) (cs : List Char) :
    fillEach ps cs = fill ps cs := by
  induction ps using List.reverseRecOn with
  | nil =>
      induction cs with
      | nil => rfl
      | cons c rest ih =>
          rw [fill_cons rfl, ← ih]
          rfl
  | append_singleton ps q ih =>
      obtain ⟨hps, -, hq⟩ := List.pairwise_append.1 h
      have hapart : ∀ p ∈ ps, p.Apart q := fun p hp => hq p hp q (List.mem_singleton_self q)
      rw [fillEach_append, ih hps, fillEach_cons, fill_fill hapart]
      rfl

/-! ## The trace of a mark that was filled too late -/

/-- A brace of the first text stands where the second has something else, both alike before. -/
inductive Marred : List Char → List Char → Prop where
  | here {c : Char} (rest rest' : List Char) : c ≠ '{' → Marred ('{' :: rest) (c :: rest')
  | later {cs cs' : List Char} (c : Char) : Marred cs cs' → Marred (c :: cs) (c :: cs')

/-- A text with a trace of this kind is not the other. -/
theorem Marred.ne {cs cs' : List Char} (h : Marred cs cs') : cs ≠ cs' := by
  induction h with
  | here rest rest' hc =>
      intro heq
      exact hc (List.cons.inj heq).1.symm
  | later c _ ih =>
      intro heq
      exact ih (List.cons.inj heq).2

/-- A text that begins with what is put in for a mark is marred if a brace was there. -/
theorem marred_value (p : Place) (rest rest' : List Char) :
    Marred ('{' :: rest) (p.value ++ rest') := by
  obtain ⟨c, tail, hvalue, hc⟩ := p.exists_value_eq
  rw [hvalue]
  exact .here rest (tail ++ rest') hc

/-- A pass that finds its mark mars the text. -/
theorem marred_fill (h : q.mark <:+: cs) : Marred cs (fill [q] cs) := by
  induction cs using fill_induction [q] with
  | nil => exact absurd (List.infix_nil.1 h) (List.cons_ne_nil _ _)
  | mark p hp rest hat ih =>
      rw [fill_mark hat]
      exact marred_value p _ _
  | other c rest hat ih =>
      rw [fill_cons hat]
      have hnot := markAt_eq_none_iff.1 hat q (List.mem_singleton_self q)
      have hrest : q.mark <:+: rest := (List.infix_cons_iff.1 h).resolve_left hnot
      exact .later c (ih hrest)

/-- No later pass removes the trace. -/
theorem Marred.fill {cs cs' : List Char} (h : Marred cs cs') (q : Place) :
    Marred cs (fill [q] cs') := by
  induction h with
  | here rest rest' hc =>
      rw [fill_cons (markAt_of_ne hc)]
      exact .here rest _ hc
  | @later cs cs' c _ ih =>
      cases hat : markAt [q] (c :: cs') with
      | none =>
          rw [fill_cons hat]
          exact .later c ih
      | some p =>
          obtain ⟨-, tail, htail⟩ := exists_of_markAt hat
          have hc : c = '{' := (List.cons.inj htail).1
          rw [htail] at hat ⊢
          rw [fill_mark hat, hc]
          exact marred_value p _ _

/-- The trace stays, whatever is filled later. -/
theorem Marred.fillEach {cs cs' : List Char} (h : Marred cs cs') (ps : List Place) :
    Marred cs (fillEach ps cs') := by
  induction ps generalizing cs' with
  | nil => exact h
  | cons p ps ih =>
      rw [fillEach_cons]
      exact ih (h.fill p)

/-- A text without marks is filled already. -/
theorem fill_of_not_infix (h : ∀ p ∈ ps, ¬ p.mark <:+: cs) : fill ps cs = cs := by
  induction cs with
  | nil => rfl
  | cons c rest ih =>
      have hnone : markAt ps (c :: rest) = none := by
        rw [markAt_eq_none_iff]
        exact fun p hp hfront => h p hp hfront.isInfix
      have hrest : ∀ p ∈ ps, ¬ p.mark <:+: rest :=
        fun p hp hin => h p hp (List.infix_cons_iff.2 (Or.inr hin))
      rw [fill_cons hnone, ih hrest]

/-- Filling one by one mars every text that has one of the marks. -/
theorem marred_fillEach (hq : q ∈ ps) (h : q.mark <:+: cs) : Marred cs (fillEach ps cs) := by
  induction ps with
  | nil => cases hq
  | cons p ps ih =>
      rw [fillEach_cons]
      by_cases hp : p.mark <:+: cs
      · exact (marred_fill hp).fillEach ps
      · have hkept : fill [p] cs = cs := fill_of_not_infix (by simpa using hp)
        rcases List.mem_cons.1 hq with rfl | hq
        · exact absurd h hp
        · rw [hkept]
          exact ih hq

/-! ## Which places disturb each other -/

/-- Behind a text without a closing brace a mark is found, also if a brace is open there. -/
theorem fill_append_of_closing_not_mem {front : List Char} (hfront : '}' ∉ front)
    (ps : List Place) (cs : List Char) :
    fill ps (front ++ '{' :: cs) = front ++ fill ps ('{' :: cs) := by
  induction front with
  | nil => rfl
  | cons c front ih =>
      rw [List.mem_cons, not_or] at hfront
      have hnone : markAt ps (c :: (front ++ '{' :: cs)) = none := by
        rw [markAt_eq_none_iff]
        intro p _ hmark
        have htail : p.word ++ ['}'] <+: front ++ '{' :: cs :=
          (List.cons_prefix_cons.1 hmark).2
        -- The mark would have to be closed before the next one is opened.
        have hword : p.word ++ ['}'] <+: front :=
          prefix_of_prefix_append_cons front p.brace_not_mem_tail htail
        exact hfront.2 (hword.subset (by simp))
      rw [List.cons_append, fill_cons hnone, ih hfront.2, List.cons_append]

section Nested

variable {front back : List Char}

/-- A single mark in a text in which no other is closed before or opened after it. -/
theorem fill_single (hp : p ∈ ps) (hwords : ∀ x ∈ ps, x.word = p.word → x = p)
    (hfront : '}' ∉ front) (hback : '{' ∉ back) :
    fill ps (front ++ (p.mark ++ back)) = front ++ (p.value ++ back) := by
  have hrest : fill ps back = back := by
    simpa [fill_nil] using fill_append_of_not_mem hback ps []
  calc
    fill ps (front ++ (p.mark ++ back))
        = front ++ fill ps (p.mark ++ back) :=
          fill_append_of_closing_not_mem hfront ps (p.word ++ ['}'] ++ back)
    _ = front ++ (p.value ++ back) := by
          rw [fill_mark (markAt_mark hp hwords back), hrest]

/-- The same text is kept where the place of the mark is not among those filled. -/
theorem fill_single_of_ne (hwords : ∀ x ∈ ps, x.word ≠ p.word)
    (hfront : '}' ∉ front) (hback : '{' ∉ back) :
    fill ps (front ++ (p.mark ++ back)) = front ++ (p.mark ++ back) := by
  have hnone : markAt ps (p.mark ++ back) = none := by
    rw [markAt_eq_none_iff]
    intro x hx hfront
    exact hwords x hx (word_eq_of_prefix_mark hfront)
  have htail : '{' ∉ p.word ++ ['}'] ++ back := by
    simp [p.brace_not_mem, hback]
  have hkept : fill ps (p.word ++ ['}'] ++ back) = p.word ++ ['}'] ++ back := by
    simpa [fill_nil] using fill_append_of_not_mem htail ps []
  calc
    fill ps (front ++ (p.mark ++ back))
        = front ++ fill ps (p.mark ++ back) :=
          fill_append_of_closing_not_mem hfront ps (p.word ++ ['}'] ++ back)
    _ = front ++ (p.mark ++ back) := by
          rw [mark, List.cons_append] at hnone ⊢
          rw [fill_cons hnone, hkept]

/-- A mark that no place has a word for stays where it is. -/
theorem fillEach_single_of_ne (hwords : ∀ x ∈ ps, x.word ≠ p.word)
    (hfront : '}' ∉ front) (hback : '{' ∉ back) :
    fillEach ps (front ++ (p.mark ++ back)) = front ++ (p.mark ++ back) := by
  induction ps with
  | nil => rfl
  | cons x ps ih =>
      have hx : ∀ y ∈ [x], y.word ≠ p.word := by
        intro y hy
        rw [List.mem_singleton.1 hy]
        exact hwords x List.mem_cons_self
      rw [fillEach_cons, fill_single_of_ne hx hfront hback]
      exact ih fun y hy => hwords y (List.mem_cons_of_mem x hy)

/-- A later pass that finds its mark where a text was put in does what filling at once does not. -/
theorem fillEach_ne_fill {before after : List Place}
    (hwords : ((before ++ p :: after).map word).Nodup) (hq : q ∈ after)
    (hfront : '}' ∉ front) (hback : '{' ∉ back)
    (hmark : q.mark <:+: front ++ (p.value ++ back)) :
    fillEach (before ++ p :: after) (front ++ (p.mark ++ back)) ≠
      fill (before ++ p :: after) (front ++ (p.mark ++ back)) := by
  have hinj := List.inj_on_of_nodup_map hwords
  have hp : p ∈ before ++ p :: after := by simp
  have hbefore : ∀ x ∈ before, x.word ≠ p.word := by
    intro x hx heq
    rw [List.map_append, List.map_cons, List.nodup_middle, List.nodup_cons] at hwords
    exact hwords.1 (List.mem_append_left _ (List.mem_map.2 ⟨x, hx, heq⟩))
  have hunique : ∀ x ∈ before ++ p :: after, x.word = p.word → x = p :=
    fun x hx heq => hinj hx hp heq
  have hself : ∀ x ∈ [p], x.word = p.word → x = p := fun x hx _ => List.mem_singleton.1 hx
  have heach : fillEach (before ++ p :: after) (front ++ (p.mark ++ back)) =
      fillEach after (front ++ (p.value ++ back)) := by
    rw [fillEach_append, fillEach_single_of_ne hbefore hfront hback, fillEach_cons,
      fill_single (List.mem_singleton_self p) hself hfront hback]
  rw [heach, fill_single hp hunique hfront hback]
  exact (marred_fillEach hq hmark).ne.symm

end Nested

/-- What lies in a mark around a text that is put in. -/
theorem Place.around_value {front back : List Char} (h : front ++ (p.value ++ back) = q.mark) :
    '}' ∉ front ∧ '{' ∉ back := by
  obtain ⟨c, tail, hvalue, hc⟩ := p.exists_value_eq
  constructor
  · intro hmem
    -- The closing brace of a mark is its last character, so the value would be empty.
    have hbutLast : q.mark.dropLast = '{' :: q.word := by
      rw [mark, ← List.cons_append, List.dropLast_concat]
    have hne : p.value ++ back ≠ [] := by simp [hvalue]
    rw [← h, List.dropLast_append_of_ne_nil hne] at hbutLast
    have hclosing : '}' ∈ '{' :: q.word := by
      rw [← hbutLast]
      exact List.mem_append_left _ hmem
    simp [q.closing_not_mem] at hclosing
  · intro hmem
    -- The opening brace is the first, and the value does not begin with one.
    have hsplit : front ++ (c :: (tail ++ back)) = '{' :: (q.word ++ ['}']) := by
      simpa [hvalue, mark] using h
    cases front with
    | nil => exact hc (List.cons.inj hsplit).1
    | cons d front =>
        have htail : front ++ (c :: (tail ++ back)) = q.word ++ ['}'] := (List.cons.inj hsplit).2
        refine q.brace_not_mem_tail ?_
        rw [← htail]
        simp [hmem]

/-- Filling one by one is filling at once exactly if no place is disturbed by a later one. -/
theorem fillEach_eq_fill_iff (hwords : (ps.map word).Nodup) :
    (∀ cs, fillEach ps cs = fill ps cs) ↔ ps.Pairwise Apart := by
  constructor
  · intro h
    rw [List.pairwise_iff_forall_sublist]
    intro p q hsub
    obtain ⟨before, after, hps, hq⟩ : ∃ before after, ps = before ++ p :: after ∧ q ∈ after := by
      obtain ⟨before, rest, hps, hbefore, hrest⟩ := List.cons_sublist_iff.1 hsub
      obtain ⟨front, back, hsplit⟩ := List.append_of_mem hbefore
      refine ⟨front, back ++ rest, ?_, ?_⟩
      · simp [hps, hsplit]
      · exact List.mem_append_right _ (List.singleton_sublist.1 hrest)
    subst hps
    constructor
    · intro hmark
      have hin : q.mark <:+: [] ++ (p.value ++ []) := by
        simpa using hmark
      exact fillEach_ne_fill hwords hq (by simp) (by simp) hin (h _)
    · rintro ⟨front, back, hvalue⟩
      rw [List.append_assoc] at hvalue
      obtain ⟨hfront, hback⟩ := Place.around_value hvalue
      have hin : q.mark <:+: front ++ (p.value ++ back) := by
        rw [hvalue]
      exact fillEach_ne_fill hwords hq hfront hback hin (h _)
  · intro h cs
    exact fillEach_eq_fill h cs

end Chars
end Trainer
