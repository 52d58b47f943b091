import Mathlib
import Trainer.Pattern

/-!
# Which matches are found

`Node.Spans` says which stretches of a text an expression matches, and `Pattern.find?` finds the
place where the leftmost match starts (`Pattern.find?_eq_some_iff`, `Pattern.find?_eq_none_iff`).

Matching goes backwards over marks: a step on marks belongs to a relation between places when it
marks the places from which the relation leads to a marked one (`Backward`).  Steps are put together
as relations are, so the step of an expression belongs to its stretches (`Node.backward_starts`).

Of unbounded repetitions only as many are tried as the text has places.  More can mark nothing new,
for each round that marks anything marks one place more (`Backward.closure`).
-/

namespace Trainer
namespace Pattern

/-! ## Stretches of a text -/

/-- The characters in front of a place and behind it. -/
def placeAt (cs : List Char) (i : Nat) : Place :=
  ⟨(cs.take i).getLast?, cs[i]?⟩

/-- So many steps of a relation lead from one place to another. -/
inductive Times (R : Nat → Nat → Prop) : Nat → Nat → Nat → Prop where
  | zero {i : Nat} : Times R 0 i i
  | succ {n i j k : Nat} : R i j → Times R n j k → Times R (n + 1) i k

/-- An expression matches the characters from the first place up to the second. -/
def Node.Spans (cs : List Char) : Node → Nat → Nat → Prop
  | .empty => fun i j => i = j
  | .one set => fun i j => inSet set cs[i]? = true ∧ j = i + 1
  | .look l => fun i j => l.holds (placeAt cs i) = true ∧ i = j
  | .seq a b => fun i k => ∃ j, a.Spans cs i j ∧ b.Spans cs j k
  | .either a b => fun i j => a.Spans cs i j ∨ b.Spans cs i j
  | .iterate a least most => fun i j => ∃ extra, (∀ m ∈ most, extra ≤ m - least) ∧
      Times (a.Spans cs) (least + extra) i j
  | .group a => a.Spans cs

/-! ## Marks -/

def Marked (g : Goal) (i : Nat) : Prop :=
  g[i]? = some true

/--
A step on the marks of `n` places belongs to a relation: it marks the places from which the relation
leads to a marked one, and the relation does not lead out of the text.
-/
structure Backward (n : Nat) (step : Goal → Goal) (R : Nat → Nat → Prop) : Prop where
  length {g : Goal} : g.length = n → (step g).length = n
  within {i j : Nat} : i < n → R i j → j < n
  marked {g : Goal} {i : Nat} : g.length = n → i < n →
    (Marked (step g) i ↔ ∃ j, R i j ∧ Marked g j)

variable {n : Nat} {step step' : Goal → Goal} {R S : Nat → Nat → Prop} {g h : Goal} {i : Nat}

theorem length_zipWith {f : Bool → Bool → Bool} (hg : g.length = n) (hh : h.length = n) :
    (List.zipWith f g h).length = n := by
  rw [List.length_zipWith, hg, hh, Nat.min_self]

/-- A place is marked in both goals if it is marked in each. -/
theorem marked_and {g h : Goal} : Marked (List.zipWith (fun a b => a && b) g h) i ↔
    Marked g i ∧ Marked h i := by
  unfold Marked
  rw [List.getElem?_zipWith_eq_some]
  simp only [Bool.and_eq_true]
  constructor
  · rintro ⟨a, b, ha, hb, rfl, rfl⟩
    exact ⟨ha, hb⟩
  · rintro ⟨hg, hh⟩
    exact ⟨true, true, hg, hh, rfl, rfl⟩

/-- A place is marked in one of two goals, or in both. -/
theorem marked_or (hg : g.length = n) (hh : h.length = n) :
    Marked (Goal.or g h) i ↔ Marked g i ∨ Marked h i := by
  unfold Marked Goal.or
  rw [List.getElem?_zipWith_eq_some]
  simp only [Bool.or_eq_true]
  constructor
  · rintro ⟨a, b, ha, hb, rfl | rfl⟩
    · exact .inl ha
    · exact .inr hb
  · -- What marks the place in one goal, the other has the place too.
    rintro (hmark | hmark)
    · have hi : i < h.length := by
        rw [hh, ← hg]
        exact (List.getElem?_eq_some_iff.1 hmark).1
      exact ⟨true, h[i], hmark, List.getElem?_eq_getElem hi, .inl rfl⟩
    · have hi : i < g.length := by
        rw [hg, ← hh]
        exact (List.getElem?_eq_some_iff.1 hmark).1
      exact ⟨g[i], true, List.getElem?_eq_getElem hi, hmark, .inr rfl⟩

/-! ## Steps put together -/

/-- What a step describes does not depend on how the step or the relation is written. -/
theorem Backward.congr (hstep : Backward n step R) (heq : ∀ g, step' g = step g)
    (hiff : ∀ i j, S i j ↔ R i j) : Backward n step' S := by
  obtain rfl : step' = step := funext heq
  obtain rfl : S = R := funext fun i => funext fun j => propext (hiff i j)
  exact hstep

theorem Backward.keep (n : Nat) : Backward n (fun g => g) (fun i j => i = j) where
  length hg := hg
  within hi hij := hij ▸ hi
  marked _ _ := by simp

theorem Backward.comp (hstep : Backward n step R) (hstep' : Backward n step' S) :
    Backward n (fun g => step (step' g)) (fun i k => ∃ j, R i j ∧ S j k) where
  length hg := hstep.length (hstep'.length hg)
  within := by
    rintro i k hi ⟨j, hij, hjk⟩
    exact hstep'.within (hstep.within hi hij) hjk
  marked := by
    intro g i hg hi
    rw [hstep.marked (hstep'.length hg) hi]
    constructor
    · rintro ⟨j, hij, hmarked⟩
      obtain ⟨k, hjk, hk⟩ := (hstep'.marked hg (hstep.within hi hij)).1 hmarked
      exact ⟨k, ⟨j, hij, hjk⟩, hk⟩
    · rintro ⟨k, ⟨j, hij, hjk⟩, hk⟩
      exact ⟨j, hij, (hstep'.marked hg (hstep.within hi hij)).2 ⟨k, hjk, hk⟩⟩

theorem Backward.or (hstep : Backward n step R) (hstep' : Backward n step' S) :
    Backward n (fun g => Goal.or (step g) (step' g)) (fun i j => R i j ∨ S i j) where
  length hg := length_zipWith (hstep.length hg) (hstep'.length hg)
  within hi hij := hij.elim (hstep.within hi) (hstep'.within hi)
  marked := by
    intro g i hg hi
    rw [marked_or (hstep.length hg) (hstep'.length hg), hstep.marked hg hi, hstep'.marked hg hi]
    simp only [or_and_right, exists_or]

/-! ## Repetition -/

theorem times_zero_iff {j : Nat} : Times R 0 i j ↔ i = j := by
  constructor
  · rintro ⟨⟩
    rfl
  · rintro rfl
    exact .zero

theorem times_succ_iff {m k : Nat} : Times R (m + 1) i k ↔ ∃ j, R i j ∧ Times R m j k := by
  constructor
  · rintro (_ | ⟨hij, hjk⟩)
    exact ⟨_, hij, hjk⟩
  · rintro ⟨j, hij, hjk⟩
    exact .succ hij hjk

theorem times_add_iff {l m k : Nat} :
    Times R (l + m) i k ↔ ∃ j, Times R l i j ∧ Times R m j k := by
  induction l generalizing i with
  | zero => simp [times_zero_iff]
  | succ l ih =>
      rw [Nat.succ_add, times_succ_iff]
      simp only [ih, times_succ_iff]
      constructor
      · rintro ⟨j, hij, k', hjk', hk'k⟩
        exact ⟨k', ⟨j, hij, hjk'⟩, hk'k⟩
      · rintro ⟨k', ⟨j, hij, hjk'⟩, hk'k⟩
        exact ⟨j, hij, k', hjk', hk'k⟩

/-- A step that changes nothing does not have to be taken again. -/
theorem untilStable_eq_iterate (step : Goal → Goal) (m : Nat) (g : Goal) :
    untilStable step m g = step^[m] g := by
  induction m generalizing g with
  | zero => rfl
  | succ m ih =>
      rw [untilStable, Function.iterate_succ_apply]
      split
      case isTrue hfix =>
        have hfixed : Function.IsFixedPt step g := hfix
        rw [hfix]
        exact (hfixed.iterate m).symm
      case isFalse => exact ih (step g)

theorem Backward.iterate (hstep : Backward n step R) (m : Nat) :
    Backward n step^[m] (Times R m) := by
  induction m with
  | zero => exact (Backward.keep n).congr (fun _ => rfl) fun _ _ => times_zero_iff
  | succ m ih =>
      exact (hstep.comp ih).congr (Function.iterate_succ_apply' step m) fun _ _ => times_succ_iff

/-- Stopping a repetition that changes nothing any more loses no place. -/
theorem Backward.times (hstep : Backward n step R) (m : Nat) :
    Backward n (untilStable step m) (Times R m) :=
  (hstep.iterate m).congr (untilStable_eq_iterate step m) fun _ _ => Iff.rfl

/-- Up to `m` steps of a relation lead from one place to another. -/
def UpTo (R : Nat → Nat → Prop) (m : Nat) : Nat → Nat → Prop :=
  fun i j => ∃ e ≤ m, Times R e i j

/-- No step, or one and then the others. -/
theorem upTo_succ_iff {m k : Nat} :
    UpTo R (m + 1) i k ↔ i = k ∨ ∃ j, R i j ∧ UpTo R m j k := by
  constructor
  · rintro ⟨_ | e, he, htimes⟩
    · exact .inl (times_zero_iff.1 htimes)
    · obtain ⟨j, hij, hjk⟩ := times_succ_iff.1 htimes
      exact .inr ⟨j, hij, e, Nat.le_of_succ_le_succ he, hjk⟩
  · rintro (rfl | ⟨j, hij, e, he, hjk⟩)
    · exact ⟨0, Nat.zero_le _, .zero⟩
    · exact ⟨e + 1, Nat.succ_le_succ he, .succ hij hjk⟩

theorem Backward.upTo (hstep : Backward n step R) (m : Nat) :
    Backward n (upTo step m) (UpTo R m) := by
  have hgrow : Backward n (fun g => (fun h => Goal.or g (step h))^[m] g) (UpTo R m) := by
    induction m with
    | zero =>
        refine (Backward.keep n).congr (fun _ => rfl) fun i j => ?_
        simp [UpTo, times_zero_iff]
    | succ m ih =>
        refine ((Backward.keep n).or (hstep.comp ih)).congr (fun g => ?_) fun _ _ => upTo_succ_iff
        exact Function.iterate_succ_apply' _ m g
  exact hgrow.congr (fun g => untilStable_eq_iterate _ m g) fun _ _ => Iff.rfl

/-! ## Unbounded repetition -/

open Classical in
/-- The places among `n` from which up to `m` steps lead to one with a property. -/
noncomputable def reach (n : Nat) (R : Nat → Nat → Prop) (P : Nat → Prop) (m : Nat) :
    Finset Nat :=
  (Finset.range n).filter fun i => ∃ k, UpTo R m i k ∧ P k

variable {P : Nat → Prop}

/-- A place is within reach if some number of steps, up to the bound, leads from it to the goal. -/
theorem mem_reach {m : Nat} : i ∈ reach n R P m ↔ i < n ∧ ∃ k, UpTo R m i k ∧ P k := by
  simp [reach]

/-- With one more step, a place is in reach if it is a goal or a step leads into reach. -/
theorem mem_reach_succ (hwithin : ∀ {i j}, i < n → R i j → j < n) {m : Nat} :
    i ∈ reach n R P (m + 1) ↔ i < n ∧ (P i ∨ ∃ j ∈ reach n R P m, R i j) := by
  rw [mem_reach]
  refine and_congr_right fun hi => ?_
  constructor
  · rintro ⟨k, hk, hp⟩
    rcases upTo_succ_iff.1 hk with rfl | ⟨j, hij, hjk⟩
    · exact .inl hp
    · exact .inr ⟨j, mem_reach.2 ⟨hwithin hi hij, k, hjk, hp⟩, hij⟩
  · rintro (hp | ⟨j, hj, hij⟩)
    · exact ⟨i, upTo_succ_iff.2 (.inl rfl), hp⟩
    · obtain ⟨-, k, hjk, hp⟩ := mem_reach.1 hj
      exact ⟨k, upTo_succ_iff.2 (.inr ⟨j, hij, hjk⟩), hp⟩

theorem reach_mono : Monotone (reach n R P) := by
  intro l m hle i hi
  obtain ⟨hn, k, ⟨e, he, htimes⟩, hp⟩ := mem_reach.1 hi
  exact mem_reach.2 ⟨hn, k, ⟨e, he.trans hle, htimes⟩, hp⟩

/-- A round that reaches no new place is the last one to reach any. -/
theorem reach_stable (hwithin : ∀ {i j}, i < n → R i j → j < n) {m : Nat}
    (h : reach n R P m = reach n R P (m + 1)) :
    reach n R P (m + 1) = reach n R P (m + 2) := by
  ext i
  rw [mem_reach_succ hwithin, mem_reach_succ hwithin, ← h]

/-- There are no more steps to be made than there are places. -/
theorem reach_eq (hwithin : ∀ {i j}, i < n → R i j → j < n) {m : Nat} (hm : n ≤ m) :
    reach n R P m = reach n R P n := by
  have hgrows : ∀ l, reach n R P l ⊆ reach n R P (l + 1) := fun l => reach_mono l.le_succ
  have hcard : (reach n R P m).card = (reach n R P n).card := by
    refine Nat.stabilises_of_monotone (f := fun l => (reach n R P l).card) ?_ ?_ ?_ hm
    · exact fun l m hle => Finset.card_le_card (reach_mono hle)
    · intro l
      have hsub : reach n R P l ⊆ Finset.range n :=
        fun i hi => Finset.mem_range.2 (mem_reach.1 hi).1
      exact (Finset.card_le_card hsub).trans (Finset.card_range n).le
    · intro l heq
      rw [reach_stable hwithin (Finset.eq_of_subset_of_card_le (hgrows l) heq.ge)]
  exact (Finset.eq_of_subset_of_card_le (reach_mono hm) hcard.le).symm

/-- Among `n` places no more than `n` steps are needed. -/
theorem exists_upTo_of_times (hwithin : ∀ {i j}, i < n → R i j → j < n) {m j : Nat} (hi : i < n)
    (htimes : Times R m i j) (hj : P j) : ∃ k, UpTo R n i k ∧ P k := by
  have hreach : i ∈ reach n R P (max n m) :=
    mem_reach.2 ⟨hi, j, ⟨m, Nat.le_max_right n m, htimes⟩, hj⟩
  rw [reach_eq hwithin (Nat.le_max_left n m)] at hreach
  exact (mem_reach.1 hreach).2

/-- The closure looks as far as any number of repetitions goes. -/
theorem Backward.closure (hstep : Backward n step R) :
    Backward n (closure step) (fun i j => ∃ m, Times R m i j) where
  length := by
    intro g hg
    subst hg
    exact (hstep.upTo g.length).length rfl
  within := by
    rintro i j hi ⟨m, hij⟩
    exact (hstep.iterate m).within hi hij
  marked := by
    intro g i hg hi
    subst hg
    have hmarked : Marked (Pattern.closure step g) i ↔ ∃ j, UpTo R g.length i j ∧ Marked g j :=
      (hstep.upTo g.length).marked rfl hi
    rw [hmarked]
    constructor
    · rintro ⟨j, ⟨m, -, hij⟩, hj⟩
      exact ⟨j, ⟨m, hij⟩, hj⟩
    · rintro ⟨j, ⟨m, hij⟩, hj⟩
      exact exists_upTo_of_times hstep.within hi hij hj

/-- The step of a repetition belongs to the repetition. -/
theorem Backward.repeated (hstep : Backward n step R) (least : Nat) (most : Option Nat) :
    Backward n (repeated step least most) (fun i j => ∃ extra,
      (∀ m ∈ most, extra ≤ m - least) ∧ Times R (least + extra) i j) := by
  cases most with
  | none =>
      refine ((hstep.times least).comp hstep.closure).congr (fun _ => rfl) fun i k => ?_
      constructor
      · rintro ⟨extra, -, htimes⟩
        obtain ⟨j, hij, hjk⟩ := times_add_iff.1 htimes
        exact ⟨j, hij, extra, hjk⟩
      · rintro ⟨j, hij, extra, hjk⟩
        exact ⟨extra, nofun, times_add_iff.2 ⟨j, hij, hjk⟩⟩
  | some m =>
      refine ((hstep.times least).comp (hstep.upTo (m - least))).congr (fun _ => rfl) fun i k => ?_
      constructor
      · rintro ⟨extra, hextra, htimes⟩
        obtain ⟨j, hij, hjk⟩ := times_add_iff.1 htimes
        exact ⟨j, hij, extra, hextra m rfl, hjk⟩
      · rintro ⟨j, hij, extra, hextra, hjk⟩
        refine ⟨extra, ?_, times_add_iff.2 ⟨j, hij, hjk⟩⟩
        rintro _ ⟨⟩
        exact hextra

/-! ## Places -/

variable {cs : List Char}

theorem getElem?_placesFrom (before : Option Char) (hi : i ≤ cs.length) :
    (placesFrom before cs)[i]? = some ⟨(before.toList ++ cs.take i).getLast?, cs[i]?⟩ := by
  induction cs generalizing before i with
  | nil =>
      obtain rfl : i = 0 := Nat.le_zero.1 hi
      cases before <;> rfl
  | cons c rest ih =>
      cases i with
      | zero => cases before <;> rfl
      | succ i =>
          have hrest := ih (some c) (Nat.le_of_succ_le_succ hi)
          rw [placesFrom, List.getElem?_cons_succ, hrest]
          simp [List.getLast?_cons]

theorem length_placesFrom (before : Option Char) (cs : List Char) :
    (placesFrom before cs).length = cs.length + 1 := by
  induction cs generalizing before with
  | nil => rfl
  | cons c rest ih => rw [placesFrom, List.length_cons, ih, List.length_cons]

theorem length_places (cs : List Char) : (places cs).length = cs.length + 1 :=
  length_placesFrom none cs

theorem marked_places (f : Place → Bool) (hi : i < cs.length + 1) :
    Marked ((places cs).map f) i ↔ f (placeAt cs i) = true := by
  have hplace : (places cs)[i]? = some (placeAt cs i) :=
    getElem?_placesFrom none (Nat.le_of_lt_succ hi)
  rw [Marked, List.getElem?_map, hplace, Option.map_some, Option.some_inj]

/-- Every mark one place further to the front. -/
theorem marked_drop_append :
    Marked (g.drop 1 ++ [false]) i ↔ Marked g (i + 1) := by
  unfold Marked
  rcases Nat.lt_or_ge (i + 1) g.length with hlt | hge
  · rw [List.getElem?_append_left (by simpa using Nat.lt_sub_of_add_lt hlt), List.getElem?_drop,
      Nat.add_comm]
  · -- There is no such place, and the mark that is put in for it is none.
    rw [List.getElem?_append_right (by simpa using Nat.sub_le_of_le_add hge),
      List.getElem?_eq_none hge]
    refine iff_of_false (fun hmark => ?_) nofun
    have hmem : true ∈ [false] := List.mem_of_getElem? hmark
    exact absurd hmem (by decide)

/-! ## Expressions -/

theorem lt_of_inSet {set : CharSet} (h : inSet set cs[i]? = true) : i < cs.length := by
  by_contra hge
  rw [List.getElem?_eq_none (Nat.not_lt.1 hge)] at h
  exact Bool.false_ne_true h

/-- A single character goes from its place to the next one. -/
theorem backward_one (cs : List Char) (set : CharSet) :
    Backward (cs.length + 1) ((Node.one set).starts (places cs)) ((Node.one set).Spans cs) where
  length := by
    intro g hg
    apply length_zipWith
    · rw [List.length_map, length_places]
    · simp [hg]
  within := by
    rintro i j - ⟨hset, rfl⟩
    exact Nat.succ_lt_succ (lt_of_inSet hset)
  marked := by
    intro g i hg hi
    rw [Node.starts]
    dsimp only
    rw [marked_and, marked_places _ hi, marked_drop_append]
    constructor
    · rintro ⟨hset, hmark⟩
      exact ⟨i + 1, ⟨hset, rfl⟩, hmark⟩
    · rintro ⟨_, ⟨hset, rfl⟩, hmark⟩
      exact ⟨hset, hmark⟩

/-- What is looked at takes up no place. -/
theorem backward_look (cs : List Char) (l : Look) :
    Backward (cs.length + 1) ((Node.look l).starts (places cs)) ((Node.look l).Spans cs) where
  length := by
    intro g hg
    apply length_zipWith _ hg
    rw [List.length_map, length_places]
  within := by
    rintro i j hi ⟨-, rfl⟩
    exact hi
  marked := by
    intro g i hg hi
    rw [Node.starts]
    dsimp only
    rw [marked_and, marked_places _ hi]
    constructor
    · rintro ⟨hholds, hmark⟩
      exact ⟨i, ⟨hholds, rfl⟩, hmark⟩
    · rintro ⟨_, ⟨hholds, rfl⟩, hmark⟩
      exact ⟨hholds, hmark⟩

/-- The step of an expression belongs to the stretches that it matches. -/
theorem Node.backward_starts (cs : List Char) (node : Node) :
    Backward (cs.length + 1) (node.starts (places cs)) (node.Spans cs) := by
  induction node with
  | empty => exact Backward.keep _
  | one set => exact backward_one cs set
  | look l => exact backward_look cs l
  | seq a b iha ihb => exact iha.comp ihb
  | either a b iha ihb => exact iha.or ihb
  | iterate a least most ih => exact ih.repeated least most
  | group a ih => exact ih

/-! ## The first match -/

def StartsAt (p : Pattern) (content : String) (i : Nat) : Prop :=
  i ≤ content.toList.length ∧ ∃ j, p.node.Spans content.toList i j

/-- A match starts at a place, and none in front of it. -/
structure FirstAt (p : Pattern) (content : String) (i : Nat) : Prop where
  starts : p.StartsAt content i
  none_before : ∀ k < i, ¬ p.StartsAt content k

variable {p : Pattern} {content : String}

/-- Marked are in the end the places at which a match starts. -/
theorem marked_starts_iff (p : Pattern) (content : String) (i : Nat) :
    Marked (p.node.starts (places content.toList) ((places content.toList).map fun _ => true)) i ↔
      p.StartsAt content i := by
  have hstep := Node.backward_starts content.toList p.node
  have hall : ((places content.toList).map fun _ => true).length = content.toList.length + 1 := by
    rw [List.length_map, length_places]
  rcases Nat.lt_or_ge i (content.toList.length + 1) with hi | hi
  · rw [hstep.marked hall hi]
    constructor
    · rintro ⟨j, hij, -⟩
      exact ⟨Nat.le_of_lt_succ hi, j, hij⟩
    · rintro ⟨-, j, hij⟩
      exact ⟨j, hij, (marked_places _ (hstep.within hi hij)).2 rfl⟩
  · refine iff_of_false (fun hmark => ?_) fun h => absurd h.1 (Nat.not_le.2 hi)
    have hlt := (List.getElem?_eq_some_iff.1 hmark).1
    rw [hstep.length hall] at hlt
    exact absurd hlt (Nat.not_lt.2 hi)

/-- What is found is where the leftmost match starts. -/
theorem find?_eq_some_iff : p.find? content = some i ↔ p.FirstAt content i := by
  have hmarks := marked_starts_iff p content
  unfold find? Node.firstStart?
  dsimp only
  generalize p.node.starts (places content.toList) _ = marks at hmarks
  rw [List.findIdx?_eq_some_iff_getElem]
  constructor
  · rintro ⟨hi, hmark, hbefore⟩
    refine ⟨(hmarks i).1 ?_, fun k hk hstarts => ?_⟩
    · rw [Marked, List.getElem?_eq_getElem hi]
      exact congrArg some hmark
    · obtain ⟨hk', hmark'⟩ := List.getElem?_eq_some_iff.1 ((hmarks k).2 hstarts)
      exact hbefore k hk hmark'
  · rintro ⟨hstarts, hbefore⟩
    obtain ⟨hi, hmark⟩ := List.getElem?_eq_some_iff.1 ((hmarks i).2 hstarts)
    refine ⟨hi, hmark, fun k hk hmark' => hbefore k hk ((hmarks k).1 ?_)⟩
    rw [Marked, List.getElem?_eq_getElem (hk.trans hi)]
    exact congrArg some hmark'

/-- Nothing is found exactly where nothing matches. -/
theorem find?_eq_none_iff : p.find? content = none ↔ ∀ i, ¬ p.StartsAt content i := by
  constructor
  · intro hnone i hstarts
    -- Of the places at which a match starts one is the first.
    classical
    have hfirst : p.FirstAt content (Nat.find ⟨i, hstarts⟩) :=
      ⟨Nat.find_spec ⟨i, hstarts⟩, fun k hk => Nat.find_min ⟨i, hstarts⟩ hk⟩
    rw [find?_eq_some_iff.2 hfirst] at hnone
    cases hnone
  · intro hno
    cases hfound : p.find? content with
    | none => rfl
    | some i => exact absurd (find?_eq_some_iff.1 hfound).starts (hno i)

end Pattern
end Trainer
