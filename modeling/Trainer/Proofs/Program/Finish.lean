import Mathlib
import Trainer.Proofs.Catalog.Queries
import Trainer.Proofs.Program.Transaction
import Trainer.Proofs.Session.Position

/-!
# When everything is done

The run of an exercise and a session that is over both say when every exercise is completed.  The
one asks for the next exercise and the other counts, and each is right by the file
(`allDone_mem_outlook_iff`, `wellPlayed_mem_farewell_iff`): so they say it in the same states, after
whatever calls on the catalog and whichever saves have failed (`queries_agree`).
-/

namespace Trainer
namespace Program

open Progress (Completed)
open Catalog (helloHost helloPaths helloShelf helloLoaded helloRefused helloStored)

variable {σ : Type} {host : Host σ} {file : Path} {paint : Paint} {c : Catalog} {s : σ}

/-! ## The announcements -/

/-- The announcement at the end of a session that every exercise is done. -/
def wellPlayed (paint : Paint) : Channel × String :=
  (.out, paint.boldGreen "✓" ++ " Every exercise is done. Well played!" ++ "\n")

/-- The program says that all is done if it knows of nothing to go on with. -/
theorem allDone_mem_outlook (paint : Paint) (c : Catalog) :
    allDone paint ∈ outlook paint c ↔ c.nextIncomplete = none := by
  rw [outlook_eq, List.mem_singleton]
  cases c.nextIncomplete with
  | none => simp
  | some e => simpa using (nextUp_ne_allDone paint e.name).symm

/-- The farewell praises a learner who completed everything, if there was anything. -/
theorem wellPlayed_mem_farewell (paint : Paint) (stats : ProgressStats) :
    wellPlayed paint ∈ farewell paint stats ↔ 0 < stats.total ∧ stats.completed = stats.total := by
  have hshare : wellPlayed paint ∉ say (paint.boldCyan "→" ++ " " ++ share stats "exercises ") := by
    rw [say, List.mem_singleton]
    intro h
    have htext := congrArg (·.2) h.symm
    simp only [wellPlayed, String.append_assoc] at htext
    exact arrow_append_ne_tick_append paint _ _ htext
  rw [farewell, List.mem_append, or_iff_right hshare]
  split
  · rename_i hall
    exact iff_of_true (List.mem_singleton_self _) hall
  · rename_i hnot
    exact iff_of_false List.not_mem_nil hnot

/-! ## What the file says -/

/-- No exercise is next if the file says that all of them are completed. -/
theorem nextIncomplete_eq_none_iff_completed (hstored : Catalog.Stored host file c s)
    (hc : c.Agrees) :
    c.nextIncomplete = none ↔ ∀ e ∈ c.exercises, Completed host file s e.name := by
  rw [Catalog.nextIncomplete, List.find?_eq_none]
  refine forall₂_congr fun e he => ?_
  rw [completed_iff_of_stored hstored, ← hc.flags e he, Bool.not_eq_true, Bool.not_eq_false']

/-- The outlook says that all is done just if the stored record has every exercise completed. -/
theorem allDone_mem_outlook_iff (hstored : Catalog.Stored host file c s) (hc : c.Agrees) :
    allDone paint ∈ outlook paint c ↔ ∀ e ∈ c.exercises, Completed host file s e.name :=
  (allDone_mem_outlook paint c).trans (nextIncomplete_eq_none_iff_completed hstored hc)

/-- The farewell praises just if the stored record has every exercise completed. -/
theorem wellPlayed_mem_farewell_iff (hstored : Catalog.Stored host file c s) (hc : c.Agrees)
    (hne : c.exercises ≠ []) :
    wellPlayed paint ∈ farewell paint c.stats ↔
      ∀ e ∈ c.exercises, Completed host file s e.name := by
  have htotal : 0 < c.stats.total := List.length_pos_iff.2 hne
  rw [wellPlayed_mem_farewell, and_iff_right htotal, ← Catalog.nextIncomplete_eq_none_iff]
  exact nextIncomplete_eq_none_iff_completed hstored hc

/-! ## The answers agree -/

/--
What a loaded catalog answers after any calls of which any may have failed.  No exercise is next if
as many are done as there are, and else the next one is the first open exercise; as many are done as
the file marks; and one goes on at the exercise that is pointed at in memory, or else at the next
one, or else at the first.  That everything is done is said after a run exactly if it is said after
a session, and both exactly if the file marks every exercise.
-/
theorem queries_agree {paths : CatalogPaths} {c₀ : Catalog} {s₀ : σ}
    {log : List (Catalog.Call × Bool)} (hkeeps : host.Keeps paths.progressFile)
    (hclock : ∀ s, (host.now s).isValid = true) (hload : Catalog.load host paths s₀ = .ok c₀)
    (hrun : Catalog.Run host c₀ s₀ log c s) (paint : Paint) :
    (c.nextIncomplete = none ↔ c.stats.completed = c.stats.total) ∧
    (∀ e, c.nextIncomplete = some e ↔ ∃ i : Nat, c.exercises[i]? = some e ∧
      e.completed = false ∧
      ∀ j < i, ∀ e' : Exercise, c.exercises[j]? = some e' → e'.completed = true) ∧
    (∃ p, Progress.load host paths.progressFile s = .ok p ∧
      c.stats = ⟨c.exercises.countP fun e => p.isCompleted e.name, c.size⟩) ∧
    (c.resumePosition < c.size ∧ ∀ i, c.Resumes i ↔ i = c.resumePosition) ∧
    (allDone paint ∈ outlook paint c ↔
      ∀ e ∈ c.exercises, Completed host paths.progressFile s e.name) ∧
    (wellPlayed paint ∈ farewell paint c.stats ↔
      ∀ e ∈ c.exercises, Completed host paths.progressFile s e.name) := by
  obtain ⟨hagrees, -, hstored, -⟩ :=
    hrun.accounted (Catalog.accounted_of_load hload) hkeeps hclock
  -- Calls do not change which exercises there are.
  have hne : c.exercises ≠ [] := by
    intro hnil
    have hnames : c.names = c₀.names := hrun.names
    rw [Catalog.names, hnil, List.map_nil, eq_comm, Catalog.names, List.map_eq_nil_iff] at hnames
    exact Catalog.exercises_ne_nil_of_load hload hnames
  exact ⟨Catalog.nextIncomplete_eq_none_iff, fun _ => Catalog.nextIncomplete_eq_some_iff,
    hstored.stats_eq hagrees,
    ⟨Catalog.resumePosition_lt_size hne, Catalog.resumes_iff hagrees.nodup⟩,
    allDone_mem_outlook_iff hstored hagrees, wellPlayed_mem_farewell_iff hstored hagrees hne⟩

/-- After a success that is refused nothing is announced; once it is stored, both announce it. -/
theorem queries_agree_hello :
    Catalog.Run helloHost helloLoaded helloShelf
      [(.markCompleted "hello", true), (.recordAttempt "hello" true, false)]
      helloStored.2.1 helloStored.2.2 ∧
    allDone ⟨false⟩ ∉ outlook ⟨false⟩ helloRefused.2.1 ∧
    wellPlayed ⟨false⟩ ∉ farewell ⟨false⟩ helloRefused.2.1.stats ∧
    allDone ⟨false⟩ ∈ outlook ⟨false⟩ helloStored.2.1 ∧
    wellPlayed ⟨false⟩ ∈ farewell ⟨false⟩ helloStored.2.1.stats := by
  obtain ⟨hload, -, hside⟩ := Catalog.hello_calls
  have hkeeps : helloHost.Keeps helloPaths.progressFile := Shelf.keeps _ hside
  obtain ⟨-, -, -, -, hearlier, hearlierEnd⟩ :=
    queries_agree hkeeps (fun _ => rfl) hload Catalog.run_helloRefused ⟨false⟩
  obtain ⟨-, -, -, -, hlater, hlaterEnd⟩ :=
    queries_agree hkeeps (fun _ => rfl) hload Catalog.run_helloStored ⟨false⟩
  obtain ⟨hopen, hdone⟩ : helloRefused.2.1.nextIncomplete.isSome = true ∧
      helloStored.2.1.nextIncomplete = none := by decide +kernel
  have hno : allDone ⟨false⟩ ∉ outlook ⟨false⟩ helloRefused.2.1 := by
    rw [allDone_mem_outlook]
    exact Option.isSome_iff_ne_none.1 hopen
  have hyes : allDone ⟨false⟩ ∈ outlook ⟨false⟩ helloStored.2.1 :=
    (allDone_mem_outlook _ _).2 hdone
  exact ⟨Catalog.run_helloStored, hno, fun h => hno (hearlier.2 (hearlierEnd.1 h)), hyes,
    hlaterEnd.2 (hlater.1 hyes)⟩

end Program
end Trainer
