import Mathlib
import Trainer.Dashboard
import Trainer.Proofs.Exercise.Rules
import Trainer.Proofs.Session.Account

/-!
# Hints

A hint is asked for by its level, and the author need not have written all of them: a level that has
nothing to say gives way to the next lower one (`Hints.Answers`).  The first level always has
something to say, for the metadata were refused otherwise, so there is always a text
(`Hints.exists_answers`).

The level goes by the attempts that were counted, and these never become fewer in a session, however
its saves end (`History.attempts_le`).  So the level that is shown never decreases, and neither does
the level of the text that answers it (`hints_escalate`).
-/

namespace Trainer

/-! ## The text of a level -/

namespace Hints

/-- What the author has written for a level. -/
def written? (h : Hints) : Nat → Option String
  | 1 => some h.level1
  | 2 => h.level2
  | 3 => h.level3
  | _ => none

/-- A level is answered by the text of the highest level up to it that has something to say. -/
structure Answers (h : Hints) (level source : Nat) (text : String) : Prop where
  le : source ≤ level
  written : h.written? source = some text
  hasInk : Text.HasInk text
  highest (l : Nat) (t : String) : source < l → l ≤ level → h.written? l = some t →
    ¬ Text.HasInk t

variable {h : Hints} {level level' source source' : Nat} {text text' : String}

/-- A higher level is not answered by a lower one. -/
theorem Answers.source_le (hle : level ≤ level') (ha : h.Answers level source text)
    (ha' : h.Answers level' source' text') : source ≤ source' := by
  by_contra hlt
  exact ha'.highest source text (Nat.lt_of_not_le hlt) (ha.le.trans hle) ha.written ha.hasInk

/-- A hint is there to be shown if it was written and has something in it. -/
theorem present_eq_some_iff {hint : Option String} :
    present hint = some text ↔ hint = some text ∧ Text.HasInk text := by
  have hblank : (!Text.isBlank text) = true ↔ Text.HasInk text := by
    rw [Bool.not_eq_true', Bool.eq_false_iff, ne_eq, Text.isBlank_iff, not_not]
  rw [present, Option.filter_eq_some_iff, hblank]

theorem present_eq_none_iff {hint : Option String} :
    present hint = none ↔ ∀ t, hint = some t → ¬ Text.HasInk t := by
  rw [Option.eq_none_iff_forall_ne_some]
  refine forall_congr' fun t => ?_
  rw [ne_eq, present_eq_some_iff, not_and]

/-- A level whose text has nothing to say is answered like the one below it. -/
theorem answers_succ {hint : Option String} (hwritten : h.written? (level + 1) = hint)
    (hbelow : h.Answers level source text) :
    ∃ source', h.Answers (level + 1) source' ((present hint).getD text) := by
  cases hpresent : present hint with
  | some t =>
      obtain ⟨rfl, hink⟩ := present_eq_some_iff.1 hpresent
      exact ⟨level + 1, le_rfl, hwritten, hink, fun l _ hlt hle => absurd hle (Nat.not_le.2 hlt)⟩
  | none =>
      -- The level has nothing to say, so the text from below is still the highest one.
      refine ⟨source, Nat.le_succ_of_le hbelow.le, hbelow.written, hbelow.hasInk, ?_⟩
      intro l t hlt hle ht
      rcases Nat.le_succ_iff.1 hle with hle | rfl
      · exact hbelow.highest l t hlt hle ht
      · exact present_eq_none_iff.1 hpresent t (hwritten ▸ ht)

/-- Every level is answered if the first one has something to say. -/
theorem exists_answers (hfirst : Text.HasInk h.level1) (hpos : 1 ≤ level) (hle : level ≤ 3) :
    ∃ source, h.Answers level source (h.atLevel level) := by
  have hone : h.Answers 1 1 (h.atLevel 1) :=
    ⟨le_rfl, rfl, hfirst, fun l _ hlt hle => absurd hle (Nat.not_le.2 hlt)⟩
  obtain ⟨two, htwo⟩ : ∃ source, h.Answers 2 source (h.atLevel 2) := answers_succ rfl hone
  obtain ⟨three, hthree⟩ : ∃ source, h.Answers 3 source (h.atLevel 3) := by
    have hor : h.atLevel 3 = (present h.level3).getD (h.atLevel 2) := by
      cases hpresent : present h.level3 <;> simp [atLevel, hpresent]
    rw [hor]
    exact answers_succ rfl htwo
  obtain rfl | rfl | rfl : level = 1 ∨ level = 2 ∨ level = 3 := by omega
  · exact ⟨1, hone⟩
  · exact ⟨two, htwo⟩
  · exact ⟨three, hthree⟩

/-! ## The level of some attempts -/

/-- The level goes up at the third attempt and at the sixth one. -/
inductive Unlocks : Nat → Nat → Prop where
  | first {attempts : Nat} : attempts < 3 → Unlocks attempts 1
  | second {attempts : Nat} : 3 ≤ attempts → attempts ≤ 5 → Unlocks attempts 2
  | third {attempts : Nat} : 6 ≤ attempts → Unlocks attempts 3

/-- The level goes up with the attempts by fixed thresholds. -/
theorem unlocks_levelFor (attempts : Nat) : Unlocks attempts (levelFor attempts) := by
  unfold levelFor
  split
  · exact .first (by omega)
  · split
    · exact .second (by omega) (by omega)
    · exact .third (by omega)

/-- More attempts do not lower the level. -/
theorem levelFor_mono {m n : Nat} (h : m ≤ n) : levelFor m ≤ levelFor n := by
  unfold levelFor
  split_ifs <;> omega

theorem levelFor_bounds (attempts : Nat) : 1 ≤ levelFor attempts ∧ levelFor attempts ≤ 3 := by
  unfold levelFor
  split_ifs <;> omega

end Hints

/-! ## The hints of a catalog -/

namespace Catalog

variable {σ : Type} {host : Host σ} {paths : CatalogPaths} {c : Catalog} {t : σ}

/-- Hints do not depend on what the learner has done. -/
theorem lasting_hints : Lasting Exercise.hints :=
  ⟨fun _ _ => rfl, fun _ _ => rfl⟩

/-- Metadata without a first hint are refused, so every exercise of a loaded catalog has one. -/
theorem hasInk_of_load (h : load host paths t = .ok c) {e : Exercise} (he : e ∈ c.exercises) :
    Text.HasInk e.hints.level1 := by
  obtain ⟨root, p, e₀, -, hload, rfl⟩ := exists_loadEntry_of_load h he
  obtain ⟨content, m, v, -, hparse, -, -, rfl⟩ := exists_metadata_of_loadEntry hload
  exact (Metadata.parse_eq_ok_iff.1 hparse).2 .firstHint

end Catalog

/-! ## The hints of a session -/

namespace Dashboard

/-- A panel shows a hint of a level: the level stands in its title, and the text at its top. -/
structure Panel.ShowsHint (p : Panel) (level : Nat) (text : String) : Prop where
  title : p.title = " Hint (level " ++ toString level ++ ") "
  lines : (Text.lines text).map Line.plain <+: p.lines

/-- The hint panel shows the hint of the current exercise. -/
theorem showsHint_hint (s : Session) :
    (hint s).ShowsHint s.currentExercise.hintLevel s.currentExercise.hint := by
  refine ⟨rfl, ?_⟩
  simp only [hint, List.append_assoc]
  exact List.prefix_append _ _

end Dashboard

namespace Session

open Catalog

variable {σ : Type} {store : ProgressStore σ} {meanwhile : σ → σ → Prop} {c : Catalog}
  {extension : String} {h₀ h h' : σ} {log more : List (Heard σ)} {s s' : Session}

/-- The hints of an exercise are those of the catalog. -/
theorem History.hints_eq (hs : History store meanwhile c extension h₀ log s h) {i : Nat}
    {e : Exercise} (he : s.catalog.exercises[i]? = some e) :
    ∃ e₀, c.exercises[i]? = some e₀ ∧ e.name = e₀.name ∧ e.hints = e₀.hints := by
  have hhints := hs.reachable.map_exercises lasting_hints
  have hnames := hs.reachable.map_exercises lasting_name
  have hboth := congrArg (·[i]?) hhints
  have hname := congrArg (·[i]?) hnames
  simp only [List.getElem?_map, he] at hboth hname
  obtain ⟨e₀, he₀, hsame⟩ := Option.map_eq_some_iff.1 hboth.symm
  rw [he₀] at hname
  exact ⟨e₀, he₀, Option.some.inj hname, hsame.symm⟩

/-- The attempts of an exercise do not become fewer when more is heard. -/
theorem History.attempts_le {τ : Type} {host : Host τ} {paths : CatalogPaths} {t : τ}
    (hload : load host paths t = .ok c)
    (hs : History store meanwhile c extension h₀ log s h)
    (hs' : History store meanwhile c extension h₀ (more ++ log) s' h') {i : Nat} {e e' : Exercise}
    (he : s.catalog.exercises[i]? = some e) (he' : s'.catalog.exercises[i]? = some e') :
    e.attempts ≤ e'.attempts := by
  rw [(hs.exercises_eq (agrees_of_load hload)).2, List.getElem?_map] at he
  rw [(hs'.exercises_eq (agrees_of_load hload)).2, List.getElem?_map] at he'
  obtain ⟨e₀, he₀, rfl⟩ := Option.map_eq_some_iff.1 he
  obtain rfl : marks store (more ++ log) e₀ = e' := by
    rw [he₀] at he'
    exact Option.some.inj he'
  obtain ⟨hfresh, -⟩ := untried_of_load hload (List.mem_of_getElem? he₀)
  rw [attempts_marks hfresh, attempts_marks hfresh, List.countP_append]
  omega

/--
In every session of a loaded catalog the level of the hint of an exercise is 1 below three attempts,
2 below six, and 3 from then on, and its text is that of the highest level up to this one that has
something to say.  There always is one.  In the view of the hint the current exercise is shown with
this level and this text.

When the session has heard more, the exercise has as many attempts or more, its level is as high or
higher, and so is the level that its text was written for.
-/
theorem hints_escalate {τ : Type} {host : Host τ} {paths : CatalogPaths} {t : τ}
    (hload : load host paths t = .ok c)
    (hs : History store meanwhile c extension h₀ log s h) {i : Nat} {e : Exercise}
    (he : s.catalog.exercises[i]? = some e) :
    Hints.Unlocks e.attempts e.hintLevel ∧
    (∃ source, e.hints.Answers e.hintLevel source e.hint) ∧
    (s.current = i → (Dashboard.hint s).ShowsHint e.hintLevel e.hint) ∧
    ∀ (more : List (Heard σ)) (s' : Session) (h' : σ) (e' : Exercise),
      History store meanwhile c extension h₀ (more ++ log) s' h' →
      s'.catalog.exercises[i]? = some e' →
      e'.name = e.name ∧ e'.hints = e.hints ∧
      e.attempts ≤ e'.attempts ∧ e.hintLevel ≤ e'.hintLevel ∧
      ∀ source source', e.hints.Answers e.hintLevel source e.hint →
        e'.hints.Answers e'.hintLevel source' e'.hint → source ≤ source' := by
  obtain ⟨e₀, he₀, hname, hhints⟩ := hs.hints_eq he
  refine ⟨Hints.unlocks_levelFor _, ?_, ?_, ?_⟩
  · -- The hints are those of the catalog, which has been loaded from accepted metadata.
    have hfirst : Text.HasInk e.hints.level1 :=
      hhints ▸ hasInk_of_load hload (List.mem_of_getElem? he₀)
    obtain ⟨hpos, hle⟩ := Hints.levelFor_bounds e.attempts
    exact Hints.exists_answers hfirst hpos hle
  · rintro rfl
    have hcurrent : s.currentExercise = e := by
      rw [currentExercise, he, Option.getD_some]
    exact hcurrent ▸ Dashboard.showsHint_hint s
  · intro more s' h' e' hs' he'
    obtain ⟨e₁, he₁, hname', hhints'⟩ := hs'.hints_eq he'
    obtain rfl : e₀ = e₁ := Option.some.inj (he₀.symm.trans he₁)
    have hsame : e'.hints = e.hints := hhints'.trans hhints.symm
    have hattempts : e.attempts ≤ e'.attempts := hs.attempts_le hload hs' he he'
    have hlevel : e.hintLevel ≤ e'.hintLevel := Hints.levelFor_mono hattempts
    refine ⟨hname'.trans hname.symm, hsame, hattempts, hlevel, ?_⟩
    intro source source' ha ha'
    rw [hsame] at ha'
    exact ha.source_le hlevel ha'

/-- Two attempts, the first of them not stored, leave the exercise at its first hint. -/
theorem hints_escalate_hello :
    load helloHost helloPaths helloShelf = .ok helloLoaded ∧
    History helloStore (fun _ _ => True) helloLoaded "go" helloShelf
      [storedHello, refusedHello] savedHello savedShelf ∧
    ∃ e : Exercise, savedHello.catalog.exercises[0]? = some e ∧
      Hints.Unlocks e.attempts e.hintLevel ∧
      ∃ source, e.hints.Answers e.hintLevel source e.hint := by
  obtain ⟨hload, -, -, hnow⟩ := hello_heard
  obtain ⟨e, he, -⟩ := Option.map_eq_some_iff.1 hnow
  obtain ⟨hlevel, hanswer, -⟩ := hints_escalate hload history_savedHello he
  exact ⟨hload, history_savedHello, e, he, hlevel, hanswer⟩

end Session
end Trainer
