import Mathlib
import Trainer.Runner
import Trainer.Proofs.Text.Trimming

/-!
# Rules and their names

A rule is put into a table under the id of its entry, and an exercise refers to a rule by an id of
its own metadata.  Each side takes the blanks off by itself, and the look-up takes off none.
`ids_agree` says that they meet: a reference finds the rule of an entry just if the two ids differ
in blanks at their ends at most.

## The argument

* What can come of taking in one rule is listed once (`Outcome`).  The table gets the rule behind
  the one that it has under the id already, if it has one (`get?_enter`), and its ids stay trimmed,
  in order and without repeats (`Kept.enter`).
* So over any calls, some of which may fail, the first rule of an id stays (`get?_entered`).
* The entries of a configuration are taken in just if they fit (`registerAll_ok_iff`), and then a
  rule is found under the ids of the entries only (`Holds`).  Both are inductions over the entries
  that go through `registerAll_cons`.
-/

namespace Trainer

/-- The id under which the rule of an entry is kept. -/
def CheckEntry.key (e : CheckEntry) : String :=
  Text.trim e.id

namespace CheckTable

variable {t t' : CheckTable} {id : String} {check : StaticCheck} {f : Failure}
  {rules : List (String × StaticCheck)} {e : CheckEntry} {entries rest : List CheckEntry}

/-! ## Places -/

theorem lookup_cons_ite (i j : String) (c : StaticCheck) (rules : List (String × StaticCheck)) :
    ((j, c) :: rules).lookup i = if i = j then some c else rules.lookup i := by
  rw [List.lookup_cons]
  by_cases h : i = j
  · simp [h]
  · simp [beq_false_of_ne h, h]

/-- A rule that is placed is found under its id, and the others under theirs. -/
theorem lookup_place (check : StaticCheck) (h : rules.lookup id = none) (i : String) :
    (place id check rules).lookup i = if i = id then some check else rules.lookup i := by
  induction rules with
  | nil => rw [place, lookup_cons_ite]
  | cons rule rest ih =>
      obtain ⟨j, c⟩ := rule
      rw [lookup_cons_ite] at h
      split_ifs at h with hj
      rw [place]
      split_ifs with hlt hi hi
      · rw [lookup_cons_ite, if_pos hi]
      · rw [lookup_cons_ite, if_neg hi]
      · rw [lookup_cons_ite, ih h, if_pos hi, if_neg (hi ▸ hj)]
      · rw [lookup_cons_ite, ih h, if_neg hi, lookup_cons_ite]

theorem fst_mem_place {rule : String × StaticCheck} (h : rule ∈ place id check rules) :
    rule.1 = id ∨ rule ∈ rules := by
  induction rules with
  | nil => exact .inl (congrArg Prod.fst (List.mem_singleton.1 h))
  | cons other rest ih =>
      rw [place] at h
      split_ifs at h
      · rcases List.mem_cons.1 h with rfl | h
        · exact .inl rfl
        · exact .inr h
      · rcases List.mem_cons.1 h with rfl | h
        · exact .inr List.mem_cons_self
        · exact (ih h).imp_right (List.mem_cons_of_mem other)

/-! ## Taking in a rule -/

/-- What can come of taking a rule into a table. -/
inductive Outcome (t : CheckTable) (id : String) (check : StaticCheck) :
    Except Failure Unit × CheckTable → Prop where
  | blank : ¬ Text.HasInk id → Outcome t id check (.error .emptyId, t)
  | taken {other : StaticCheck} : Text.HasInk id → t.get? (Text.trim id) = some other →
      Outcome t id check (.error (.taken (Text.trim id)), t)
  | placed : Text.HasInk id → t.get? (Text.trim id) = none →
      Outcome t id check (.ok (), ⟨place (Text.trim id) check t.rules⟩)

/-- Taking in a rule comes to one of the cases of `Outcome`. -/
theorem enter_outcome (t : CheckTable) (id : String) (check : StaticCheck) :
    Outcome t id check (enter id check t) := by
  unfold enter contains
  dsimp only
  by_cases hink : Text.HasInk id
  · rw [if_neg (Text.trim_ne_empty_iff.2 hink)]
    cases hget : t.get? (Text.trim id) with
    | none => exact .placed hink hget
    | some other => exact .taken hink hget
  · rw [if_pos (by simpa using mt Text.trim_ne_empty_iff.1 hink)]
    exact .blank hink

/-- A rule is taken in under an id that is not blank and that no rule has yet. -/
theorem enter_eq_ok_iff : enter id check t = (.ok (), t') ↔ Text.HasInk id ∧
    t.get? (Text.trim id) = none ∧ t' = ⟨place (Text.trim id) check t.rules⟩ := by
  have hout := enter_outcome t id check
  generalize enter id check t = r at hout
  cases hout with
  | blank hblank => simp [hblank]
  | taken hink hget => simp [hget]
  | placed hink hfree => simp [hink, hfree, eq_comm]

/-- A rule that was taken in is found under its id without the blanks around it. -/
theorem get?_of_enter_eq_ok (h : enter id check t = (.ok (), t')) (i : String) :
    t'.get? i = if i = Text.trim id then some check else t.get? i := by
  obtain ⟨-, hfree, rfl⟩ := enter_eq_ok_iff.1 h
  exact lookup_place check hfree i

/-- A rule that was refused leaves the table as it was. -/
theorem enter_of_error (h : (enter id check t).1 = .error f) : (enter id check t).2 = t := by
  have hout := enter_outcome t id check
  generalize enter id check t = r at h hout
  cases hout with
  | blank => rfl
  | taken => rfl
  | placed => cases h

/-- A table gets the rule under its trimmed id, unless it has one there. -/
theorem get?_enter (t : CheckTable) (id : String) (check : StaticCheck) {i : String}
    (hi : i ≠ "") : (enter id check t).2.get? i =
      (t.get? i).or (if Text.trim id = i then some check else none) := by
  have hout := enter_outcome t id check
  generalize enter id check t = r at hout
  cases hout with
  | blank hblank =>
      -- Nothing is left of the id, so it does not name `i`.
      have hother : Text.trim id ≠ i := by
        rintro rfl
        exact hblank (Text.trim_ne_empty_iff.1 hi)
      rw [if_neg hother, Option.or_none]
  | taken hink hget =>
      split_ifs with heq
      · rw [← heq, hget, Option.some_or]
      · rw [Option.or_none]
  | placed hink hfree =>
      rw [get?, lookup_place check hfree]
      split_ifs with heq hne hne
      · rw [heq, hfree, Option.none_or]
      · exact absurd heq.symm hne
      · exact absurd hne.symm heq
      · rw [Option.or_none, get?]

/-- The ids of a table are trimmed, not empty and in increasing order, none of them twice. -/
structure Kept (t : CheckTable) : Prop where
  written : ∀ rule ∈ t.rules, rule.1 ≠ "" ∧ Text.trim rule.1 = rule.1
  ordered : t.rules.Pairwise fun a b => a.1 < b.1

/-- A rule under a new id is placed in order. -/
theorem ordered_place (check : StaticCheck) (h : rules.Pairwise fun a b => a.1 < b.1)
    (hfree : rules.lookup id = none) :
    (place id check rules).Pairwise fun a b => a.1 < b.1 := by
  induction rules with
  | nil => exact List.pairwise_singleton _ _
  | cons rule rest ih =>
      obtain ⟨j, c⟩ := rule
      rw [lookup_cons_ite] at hfree
      split_ifs at hfree with hj
      obtain ⟨hfirst, hrest⟩ := List.pairwise_cons.1 h
      rw [place]
      split_ifs with hlt
      · refine List.pairwise_cons.2 ⟨fun other hother => ?_, h⟩
        rcases List.mem_cons.1 hother with rfl | hother
        · exact hlt
        · exact hlt.trans (hfirst other hother)
      · refine List.pairwise_cons.2 ⟨fun other hother => ?_, ih hrest hfree⟩
        rcases fst_mem_place hother with hid | hother
        · rw [hid]
          exact lt_of_le_of_ne (not_lt.1 hlt) (Ne.symm hj)
        · exact hfirst other hother

/-- The table stays in order when a rule is taken in or refused. -/
theorem Kept.enter (h : Kept t) (id : String) (check : StaticCheck) :
    Kept (enter id check t).2 := by
  have hout := enter_outcome t id check
  generalize CheckTable.enter id check t = r at hout
  cases hout with
  | blank => exact h
  | taken => exact h
  | placed hink hfree =>
      refine ⟨fun rule hrule => ?_, ordered_place check h.ordered hfree⟩
      rcases fst_mem_place hrule with hid | hrule
      · rw [hid]
        exact ⟨Text.trim_ne_empty_iff.2 hink, Text.trim_trim id⟩
      · exact h.written rule hrule

/-! ## Runs of calls -/

/-- The table after calls one after the other, each of which may have failed. -/
def entered (t : CheckTable) : List (String × StaticCheck) → CheckTable
  | [] => t
  | (id, check) :: calls => (enter id check t).2.entered calls

/-- The table stays in order whatever is entered, by induction on the calls. -/
theorem Kept.entered (h : Kept t) (calls : List (String × StaticCheck)) :
    Kept (t.entered calls) := by
  induction calls generalizing t with
  | nil => exact h
  | cons call calls ih => exact ih (h.enter call.1 call.2)

/-- The first rule that is offered under an id stays. -/
theorem get?_entered (t : CheckTable) (calls : List (String × StaticCheck)) {i : String}
    (hi : i ≠ "") : (t.entered calls).get? i =
      (t.get? i).or ((calls.find? fun call => Text.trim call.1 = i).map (·.2)) := by
  induction calls generalizing t with
  | nil => rw [entered, List.find?_nil, Option.map_none, Option.or_none]
  | cons call calls ih =>
      obtain ⟨id, check⟩ := call
      rw [entered, ih, get?_enter t id check hi, Option.or_assoc]
      by_cases hid : Text.trim id = i
      · rw [if_pos hid, List.find?_cons_of_pos (by simpa using hid), Option.some_or,
          Option.map_some]
      · rw [if_neg hid, List.find?_cons_of_neg (by simpa using hid), Option.none_or]

/-! ## The entries of a configuration -/

/-- Entries are registered one by one, up to the first that is refused. -/
theorem registerAll_cons : registerAll t (e :: rest) = .ok t' ↔
    ∃ check, entryCheck e = .ok check ∧
      ∃ t₁, enter e.id check t = (.ok (), t₁) ∧ registerAll t₁ rest = .ok t' := by
  rw [registerAll]
  cases hcheck : entryCheck e with
  | error f => simp
  | ok check =>
      rcases henter : enter e.id check t with ⟨f | u, t₁⟩ <;> simp [register, henter]

/-- An entry gives a check if its pattern can be parsed. -/
theorem entryCheck_ok_iff : (∃ check, entryCheck e = .ok check) ↔
    ¬ ∃ fault, Pattern.parse e.pattern = .error fault := by
  unfold entryCheck
  cases Pattern.parse e.pattern <;> simp

/-- Entries that can be taken into a table one after the other. -/
structure Fits (t : CheckTable) (entries : List CheckEntry) : Prop where
  readable : ∀ e ∈ entries, ∃ check, entryCheck e = .ok check
  named : ∀ e ∈ entries, Text.HasInk e.id
  distinct : (entries.map CheckEntry.key).Nodup
  free : ∀ e ∈ entries, t.get? e.key = none

theorem fits_cons : Fits t (e :: rest) ↔
    ∃ check, entryCheck e = .ok check ∧
      ∃ t₁, enter e.id check t = (.ok (), t₁) ∧ Fits t₁ rest := by
  constructor
  · rintro ⟨hreadable, hnamed, hdistinct, hfree⟩
    obtain ⟨⟨check, hcheck⟩, hreadable⟩ := List.forall_mem_cons.1 hreadable
    obtain ⟨hink, hnamed⟩ := List.forall_mem_cons.1 hnamed
    obtain ⟨hfirst, hdistinct⟩ := List.nodup_cons.1 hdistinct
    obtain ⟨hnone, hfree⟩ := List.forall_mem_cons.1 hfree
    have henter : enter e.id check t = (.ok (), ⟨place e.key check t.rules⟩) :=
      enter_eq_ok_iff.2 ⟨hink, hnone, rfl⟩
    refine ⟨check, hcheck, _, henter, hreadable, hnamed, hdistinct, ?_⟩
    intro e' he'
    -- The id that is taken now is none of those that follow.
    have hne : e'.key ≠ e.key := by
      intro heq
      exact hfirst (List.mem_map.2 ⟨e', he', heq⟩)
    calc get? ⟨place e.key check t.rules⟩ e'.key
        = if e'.key = e.key then some check else t.get? e'.key := get?_of_enter_eq_ok henter e'.key
      _ = t.get? e'.key := if_neg hne
      _ = none := hfree e' he'
  · rintro ⟨check, hcheck, t₁, henter, hfits⟩
    obtain ⟨hink, hnone, -⟩ := enter_eq_ok_iff.1 henter
    have hnew : ∀ e' ∈ rest, e'.key ≠ e.key ∧ t.get? e'.key = none := by
      intro e' he'
      have hget := hfits.free e' he'
      rw [get?_of_enter_eq_ok henter] at hget
      split_ifs at hget with hkey
      exact ⟨hkey, hget⟩
    refine ⟨List.forall_mem_cons.2 ⟨⟨check, hcheck⟩, hfits.readable⟩,
      List.forall_mem_cons.2 ⟨hink, hfits.named⟩, List.nodup_cons.2 ⟨?_, hfits.distinct⟩,
      List.forall_mem_cons.2 ⟨hnone, fun e' he' => (hnew e' he').2⟩⟩
    intro hmem
    obtain ⟨e', he', heq⟩ := List.mem_map.1 hmem
    exact (hnew e' he').1 heq

/-- Registration succeeds if every entry fits the table as it is then. -/
theorem registerAll_ok_iff : (∃ t', registerAll t entries = .ok t') ↔ Fits t entries := by
  induction entries generalizing t with
  | nil => exact ⟨fun _ => ⟨by simp, by simp, List.nodup_nil, by simp⟩, fun _ => ⟨t, rfl⟩⟩
  | cons e rest ih =>
      rw [fits_cons]
      constructor
      · rintro ⟨t', h⟩
        obtain ⟨check, hcheck, t₁, henter, hrest⟩ := registerAll_cons.1 h
        exact ⟨check, hcheck, t₁, henter, ih.1 ⟨t', hrest⟩⟩
      · rintro ⟨check, hcheck, t₁, henter, hfits⟩
        obtain ⟨t', hrest⟩ := ih.2 hfits
        exact ⟨t', registerAll_cons.2 ⟨check, hcheck, t₁, henter, hrest⟩⟩

/-- A configuration is refused if some entry does not fit. -/
theorem ofEntries_error_iff : (∃ f, ofEntries entries = .error f) ↔ ¬ Fits empty entries := by
  rw [← registerAll_ok_iff, ofEntries]
  cases registerAll empty entries <;> simp

/-- Entries fit an empty table if their patterns are good and their ids differ and say something. -/
theorem fits_empty_iff : Fits empty entries ↔
    (∀ e ∈ entries, ¬ ∃ fault, Pattern.parse e.pattern = .error fault) ∧
      (∀ e ∈ entries, Text.HasInk e.id) ∧ (entries.map CheckEntry.key).Nodup := by
  constructor
  · rintro ⟨hreadable, hnamed, hdistinct, -⟩
    exact ⟨fun e he => entryCheck_ok_iff.1 (hreadable e he), hnamed, hdistinct⟩
  · rintro ⟨hreadable, hnamed, hdistinct⟩
    exact ⟨fun e he => entryCheck_ok_iff.2 (hreadable e he), hnamed, hdistinct, fun _ _ => rfl⟩

/-- The table `t'` has the rules of `t` and those of the entries, and no others. -/
structure Holds (t : CheckTable) (entries : List CheckEntry) (t' : CheckTable) : Prop where
  old : ∀ {i c}, t.get? i = some c → t'.get? i = some c
  new : ∀ e ∈ entries, ∃ check, entryCheck e = .ok check ∧ t'.get? e.key = some check
  only : ∀ {i c}, t'.get? i = some c → t.get? i = some c ∨ ∃ e ∈ entries, e.key = i

theorem holds_of_registerAll (h : registerAll t entries = .ok t') : Holds t entries t' := by
  induction entries generalizing t with
  | nil =>
      cases h
      exact ⟨id, by simp, .inl⟩
  | cons e rest ih =>
      obtain ⟨check, hcheck, t₁, henter, hrest⟩ := registerAll_cons.1 h
      have hget : ∀ i, t₁.get? i = if i = e.key then some check else t.get? i :=
        get?_of_enter_eq_ok henter
      obtain ⟨hold, hnew, honly⟩ := ih hrest
      refine ⟨?old, List.forall_mem_cons.2 ⟨⟨check, hcheck, ?new⟩, hnew⟩, ?only⟩
      case old =>
        intro i c hi
        -- What is there already has another id, or the rule would have been refused.
        have hne : i ≠ e.key := by
          rintro rfl
          cases hi.symm.trans (enter_eq_ok_iff.1 henter).2.1
        apply hold
        rw [hget, if_neg hne]
        exact hi
      case new =>
        apply hold
        rw [hget, if_pos rfl]
      case only =>
        intro i c hi
        rcases honly hi with hi | ⟨e', he', hkey⟩
        · rw [hget] at hi
          split_ifs at hi with hkey
          · exact .inr ⟨e, List.mem_cons_self, hkey.symm⟩
          · exact .inl hi
        · exact .inr ⟨e', List.mem_cons_of_mem e he', hkey⟩

/-! ## References -/

theorem parse_static {word : String} (h : Text.lower (Text.trim word) = "static")
    (expected : Option String) (s : String) : Mode.parse word expected (some s) =
      if Text.trim s = "" then .error .missingCheckId else .ok (.static (Text.trim s)) := by
  simp [Mode.parse, h]

/-- What a written id `s` comes to, when it is read as `id` and the rules are those of entries. -/
structure Refers (r : Runner) (entries : List CheckEntry) (s id : String) : Prop where
  found : (∃ rule, r.checks.get? id = some rule) ↔ ∃ e ∈ entries, Text.SameCore e.id s
  /-- There is one entry with this id, and its rule is the one that is found. -/
  own : ∀ e ∈ entries, Text.SameCore e.id s →
    (∃ rule, entryCheck e = .ok rule ∧ r.checks.get? id = some rule) ∧
      ∀ e' ∈ entries, Text.SameCore e'.id s → e' = e

/-- The id that a document refers to is compared without the blanks around it. -/
theorem refers_trim {r : Runner} (h : ofEntries entries = .ok r.checks) (s : String) :
    Refers r entries s (Text.trim s) := by
  have hholds : Holds empty entries r.checks := holds_of_registerAll h
  have hfits : Fits empty entries := registerAll_ok_iff.1 ⟨r.checks, h⟩
  have hsame (e : CheckEntry) : Text.SameCore e.id s ↔ e.key = Text.trim s :=
    Text.trim_eq_trim_iff.symm
  refine ⟨⟨?_, ?_⟩, ?_⟩
  · rintro ⟨rule, hrule⟩
    rcases hholds.only hrule with hempty | ⟨e, he, hkey⟩
    · cases hempty
    · exact ⟨e, he, (hsame e).2 hkey⟩
  · rintro ⟨e, he, hes⟩
    obtain ⟨rule, -, hget⟩ := hholds.new e he
    exact ⟨rule, (hsame e).1 hes ▸ hget⟩
  · intro e he hes
    have hkey : e.key = Text.trim s := (hsame e).1 hes
    refine ⟨hkey ▸ hholds.new e he, fun e' he' hes' => ?_⟩
    exact List.inj_on_of_nodup_map hfits.distinct he' he (((hsame e').1 hes').trans hkey.symm)

theorem kept_empty : Kept empty :=
  ⟨by simp [empty], List.Pairwise.nil⟩

/--
The entries of a configuration make a table unless a pattern cannot be read, an id is blank or two
ids are the same when they are trimmed.  A reference to a rule is read if it is not blank, and then
it finds the rule of the entry whose id differs from it in blanks at the ends at most, and none if
there is no such entry.  A rule that is refused leaves the table as it is; so over any calls ids are
kept once, each with the first rule that was offered for it.
-/
theorem ids_agree (entries : List CheckEntry) :
    ((∃ f, ofEntries entries = .error f) ↔
      (∃ e ∈ entries, ∃ fault, Pattern.parse e.pattern = .error fault) ∨
        (∃ e ∈ entries, ¬ Text.HasInk e.id) ∨ ¬ (entries.map CheckEntry.key).Nodup) ∧
    (∀ r : Runner, ofEntries entries = .ok r.checks →
      ∀ word expected s, Text.lower (Text.trim word) = "static" →
        ((∃ m, Mode.parse word expected (some s) = .ok m) ↔ Text.HasInk s) ∧
        ∀ m, Mode.parse word expected (some s) = .ok m →
          ∃ id, m = .static id ∧ Refers r entries s id) ∧
    (∀ (t : CheckTable) id check f,
      (enter id check t).1 = .error f → (enter id check t).2 = t) ∧
    ∀ calls, (empty.entered calls).Kept ∧ ∀ i, i ≠ "" →
      (empty.entered calls).get? i = (calls.find? fun call => Text.trim call.1 = i).map (·.2) := by
  refine ⟨?_, fun r hr word expected s hword => ?_, fun _ _ _ _ => enter_of_error,
    fun calls => ⟨kept_empty.entered calls, fun i hi => ?_⟩⟩
  · rw [ofEntries_error_iff, fits_empty_iff]
    simp only [not_and_or, not_forall, not_not, exists_prop]
  · rw [parse_static hword]
    split_ifs with hempty
    · have hblank : ¬ Text.HasInk s := fun hink => Text.trim_ne_empty_iff.2 hink hempty
      simp [hblank]
    · refine ⟨⟨fun _ => Text.trim_ne_empty_iff.1 hempty, fun _ => ⟨_, rfl⟩⟩, fun m hm => ?_⟩
      cases hm
      exact ⟨_, rfl, refers_trim hr s⟩
  · rw [get?_entered empty calls hi]
    rfl

/-! ## A configuration with two rules -/

/-- Two rules, the id of one of them with blanks around it. -/
def tidy : List CheckEntry :=
  [⟨" no-goto ", "goto", true, none⟩, ⟨"has-main", "int main", false, some "no main function"⟩]

/-- A runner with these rules. -/
def tidyRunner : Runner :=
  Runner.ofConfig (Config.standard ⟨"/kata"⟩) ((ofEntries tidy).toOption.getD empty)

/-- A rule that is always met. -/
def lenient : StaticCheck :=
  .fixed ⟨true, "fine"⟩

/--
A reference with a tab behind it finds the rule that was configured with spaces around its id.
Another rule with that id is refused, and a rule that is offered later does not replace it.
-/
theorem ids_agree_tidy :
    ofEntries tidy = .ok tidyRunner.checks ∧
      Text.lower (Text.trim " Static") = "static" ∧
      Mode.parse " Static" none (some "no-goto\t") = .ok (.static "no-goto") ∧
      Refers tidyRunner tidy "no-goto\t" "no-goto" ∧
      (enter "no-goto\n" lenient tidyRunner.checks).1 = .error (.taken "no-goto") ∧
      (enter "no-goto\n" lenient tidyRunner.checks).2 = tidyRunner.checks ∧
      (empty.entered [(" a", lenient), ("a", .fixed ⟨false, "never"⟩)]).get? "a" =
        some lenient := by
  obtain ⟨-, hrefers, hrefused, hcalls⟩ := ids_agree tidy
  have htable : ofEntries tidy = .ok tidyRunner.checks := by decide +kernel
  have hword : Text.lower (Text.trim " Static") = "static" := by decide +kernel
  have hparse : Mode.parse " Static" none (some "no-goto\t") = .ok (.static "no-goto") := by
    decide +kernel
  have htaken : (enter "no-goto\n" lenient tidyRunner.checks).1 = .error (.taken "no-goto") := by
    decide +kernel
  obtain ⟨id, hid, hfinds⟩ :=
    (hrefers tidyRunner htable " Static" none "no-goto\t" hword).2 _ hparse
  cases hid
  refine ⟨htable, hword, hparse, hfinds, htaken, hrefused _ _ _ _ htaken, ?_⟩
  rw [(hcalls _).2 "a" (by decide)]
  decide +kernel

end CheckTable
end Trainer
