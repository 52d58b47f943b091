import Mathlib
import Trainer.Proofs.Progress.StoredForm

/-!
# Storing progress

Saving either replaces the stored progress as a whole or leaves it as it was.  What this rests on
is what a file system promises about one file and the file that is written beside it
(`Host.Keeps`); which of the steps fail, and when, is open.

* what a load gives depends only on what is found at the file (`Progress.load_eq`);
* a save that succeeds is read back (`Progress.load_of_saved`), for which two of the promises are
  enough (`Host.Replaces`);
* a save that fails, at whatever step, leaves what is found there (`Progress.look_of_unsaved`).
-/

namespace Trainer

variable {σ : Type}

namespace Host

/-- What a reader finds at a path: nothing, a text, or a refusal. -/
def look (host : Host σ) (path : Path) (s : σ) : Option (Except IoError String) :=
  if host.exists? path s then some (host.readText path s) else none

/-- What a file system promises about a file when the one that is written beside it replaces it. -/
structure Replaces (host : Host σ) (file : Path) : Prop where
  /-- What was written in full is there to be read. -/
  look_written {text : String} {s s' : σ} :
    host.writeText (Progress.sidePath file) text s = (.ok (), s') →
    host.look (Progress.sidePath file) s' = some (.ok text)
  /-- A file that takes the place of another brings its contents along. -/
  look_renamed {s s' : σ} : host.rename (Progress.sidePath file) file s = (.ok (), s') →
    host.look file s' = host.look (Progress.sidePath file) s

/--
What a file system promises about a file and the file that is written beside it.  The files of a
tree without links keep it at every path without `..` that ends in a name (`Sandbox.keeps`).  A file
that is linked to the one beside it does not, and neither does a path with a `..` behind a directory
that is missing: it leads elsewhere as soon as that directory is made.  The program makes the
directory of the progress before it loads the progress, so no directory on that path is missing
then.
-/
structure Keeps (host : Host σ) (file : Path) : Prop extends Host.Replaces host file where
  /-- Making the directory of the file does not touch the file. -/
  look_makeDirs {dir : Path} {r : Except IoError Unit} {s s' : σ} : file.parent? = some dir →
    host.makeDirs dir s = (r, s') → host.look file s' = host.look file s
  /-- Writing the file beside it, be it in part, does not touch the file. -/
  look_write {text : String} {r : Except IoError Unit} {s s' : σ} :
    host.writeText (Progress.sidePath file) text s = (r, s') →
    host.look file s' = host.look file s
  /-- A refused replacement does not touch the file. -/
  look_unrenamed {cause : IoError} {s s' : σ} :
    host.rename (Progress.sidePath file) file s = (.error cause, s') →
    host.look file s' = host.look file s

end Host

namespace Progress

variable {host : Host σ} {file : Path} {p : Progress} {s s' : σ}

/-! ## Loading -/

/-- A load depends only on what is found at the file. -/
theorem load_eq (host : Host σ) (file : Path) (s : σ) : load host file s =
    match host.look file s with
    | none => .ok fresh
    | some (.error cause) => .error (.unreadable file cause)
    | some (.ok content) =>
        match parse? content with
        | some p => .ok p
        | none => .error (.malformed file) := by
  unfold load Host.look
  cases host.exists? file s with
  | false => rfl
  | true =>
      simp only [if_true]
      cases host.readText file s with
      | error cause => rfl
      | ok content => rfl

/-- Loading reads the file and nothing else. -/
theorem load_congr (h : host.look file s' = host.look file s) :
    load host file s' = load host file s := by
  rw [load_eq, load_eq, h]

/-- A document that can be parsed has its names in order. -/
theorem ordered_of_parse? {content : String} (h : parse? content = some p) :
    Ordered p.exercises := by
  unfold parse? Toml.decode at h
  split at h
  · split at h
    · rename_i table _ _
      unfold decode at h
      simp only [Option.bind_eq_bind, Option.bind_eq_some_iff] at h
      obtain ⟨current, -, updated, -, entries, -, hp⟩ := h
      cases hp
      exact ordered_ofEntries entries
    · exact absurd h (by simp)
  · exact absurd h (by simp)

/-- Loaded names are in order. -/
theorem ordered_of_load (h : load host file s = .ok p) : Ordered p.exercises := by
  rw [load_eq] at h
  split at h
  · cases h
    exact List.Pairwise.nil
  · exact absurd h (by simp)
  · split at h
    · rename_i hparse
      cases h
      exact ordered_of_parse? hparse
    · exact absurd h (by simp)

/-- A file that holds a stored form is loaded as the progress that was stored. -/
theorem load_of_look (hp : Ordered p.exercises) (htime : ∀ t ∈ p.lastUpdated, t.isValid = true)
    (h : host.look file s = some (.ok p.render)) : load host file s = .ok p := by
  rw [load_eq, h]
  simp only [parse?_render hp htime]

/-! ## Saving -/

/-- A save goes through its steps until one fails. -/
theorem runSteps_cons_cases {step : SaveStep} {rest : List SaveStep}
    {r : Except SaveFailure Unit} (h : runSteps host (step :: rest) s = (r, s')) :
    (∃ t, step.run host s = (.ok (), t) ∧ runSteps host rest t = (r, s')) ∨
      ∃ cause, step.run host s = (.error cause, s') ∧ r = .error cause := by
  rw [runSteps, Act.bind_apply] at h
  split at h
  · rename_i t hstep
    exact .inl ⟨t, hstep, h⟩
  · rename_i cause t hstep
    cases h
    exact .inr ⟨cause, hstep, rfl⟩

/-- The endings of a step that rewords the failures of another. -/
theorem orElseFail_cases {ε ε' α : Type} {x : Act σ ε α} {f : ε → ε'} {r : Except ε' α}
    (h : x.orElseFail f s = (r, s')) :
    (∃ a, x s = (.ok a, s') ∧ r = .ok a) ∨ ∃ e, x s = (.error e, s') ∧ r = .error (f e) := by
  unfold Act.orElseFail at h
  split at h
  · rename_i a t hx
    cases h
    exact .inl ⟨a, hx, rfl⟩
  · rename_i e t hx
    cases h
    exact .inr ⟨e, hx, rfl⟩

/-- Once the side file is written and put in place, what it holds is found at the file. -/
theorem look_of_replaced (hreplaces : host.Replaces file) {text : String}
    (h : runSteps host [.write (sidePath file) text, .replace (sidePath file) file] s =
      (.ok (), s')) : host.look file s' = some (.ok text) := by
  rcases runSteps_cons_cases h with ⟨t, hwrite, hrest⟩ | ⟨cause, -, hno⟩
  · rcases orElseFail_cases hwrite with ⟨_, hwritten, -⟩ | ⟨_, -, hno⟩
    · rcases runSteps_cons_cases hrest with ⟨u, hreplace, hend⟩ | ⟨cause, -, hno⟩
      · rcases orElseFail_cases hreplace with ⟨_, hrenamed, -⟩ | ⟨_, -, hno⟩
        · cases hend
          rw [hreplaces.look_renamed hrenamed, hreplaces.look_written hwritten]
        · cases hno
      · cases hno
    · cases hno
  · cases hno

/-- As long as the side file is not in place, what is found at the file is what was there. -/
theorem look_of_unreplaced (hkeeps : host.Keeps file) {text : String} {cause : SaveFailure}
    (h : runSteps host [.write (sidePath file) text, .replace (sidePath file) file] s =
      (.error cause, s')) : host.look file s' = host.look file s := by
  rcases runSteps_cons_cases h with ⟨t, hwrite, hrest⟩ | ⟨_, hwrite, -⟩
  · rcases orElseFail_cases hwrite with ⟨_, hwritten, -⟩ | ⟨_, -, hno⟩
    · rcases runSteps_cons_cases hrest with ⟨u, -, hno⟩ | ⟨_, hreplace, -⟩
      · cases hno
      -- The side file was written but could not take the place of the other.
      · rcases orElseFail_cases hreplace with ⟨_, -, hno⟩ | ⟨_, hrefused, -⟩
        · cases hno
        · rw [hkeeps.look_unrenamed hrefused, hkeeps.look_write hwritten]
    · cases hno
  -- The side file could not be written, or only in part.
  · rcases orElseFail_cases hwrite with ⟨_, -, hno⟩ | ⟨_, hrefused, -⟩
    · cases hno
    · exact hkeeps.look_write hrefused

/-- A save that succeeds replaces the file as a whole. -/
theorem look_of_saved (hreplaces : host.Replaces file) (h : save host file p s = (.ok (), s')) :
    host.look file s' = some (.ok p.render) := by
  unfold save saveSteps at h
  cases hparent : file.parent? with
  | none =>
      rw [hparent] at h
      exact look_of_replaced hreplaces h
  | some dir =>
      rw [hparent] at h
      rcases runSteps_cons_cases h with ⟨t, -, hrest⟩ | ⟨_, -, hno⟩
      · exact look_of_replaced hreplaces hrest
      · cases hno

/-- A save that fails leaves what is found at the file. -/
theorem look_of_unsaved (hkeeps : host.Keeps file) {cause : SaveFailure}
    (h : save host file p s = (.error cause, s')) : host.look file s' = host.look file s := by
  unfold save saveSteps at h
  cases hparent : file.parent? with
  | none =>
      rw [hparent] at h
      exact look_of_unreplaced hkeeps h
  | some dir =>
      rw [hparent] at h
      rcases runSteps_cons_cases h with ⟨t, hmake, hrest⟩ | ⟨_, hmake, -⟩
      · rcases orElseFail_cases hmake with ⟨_, hmade, -⟩ | ⟨_, -, hno⟩
        · rw [look_of_unreplaced hkeeps hrest, hkeeps.look_makeDirs hparent hmade]
        · cases hno
      · rcases orElseFail_cases hmake with ⟨_, -, hno⟩ | ⟨_, hrefused, -⟩
        · cases hno
        · exact hkeeps.look_makeDirs hparent hrefused

/-- Saved progress is loaded again. -/
theorem load_of_saved (hreplaces : host.Replaces file) (hp : Ordered p.exercises)
    (htime : ∀ t ∈ p.lastUpdated, t.isValid = true)
    (h : save host file p s = (.ok (), s')) : load host file s' = .ok p :=
  load_of_look hp htime (look_of_saved hreplaces h)

end Progress
end Trainer
