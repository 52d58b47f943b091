import Mathlib
import Trainer.Proofs.Runner.Success

/-!
# What a verdict consists of

A validation has about a dozen exits, and each of them has to leave the phases, the message, the
markers, the output and the success of the verdict in agreement with each other.  `WellFormed` says
what that agreement is, and `validate_wellFormed` that every verdict has it.

## The argument

* As long as a validation goes on, its verdict is `Underway`: every phase so far has passed and
  nothing else has been noted.
* A step leaves the verdict underway, or breaks off with a message, or adds the report of a phase
  that failed (`StepEnd`).  The two ways of stopping make a well-formed verdict out of one that is
  underway (`Underway.brokenOff`, `Underway.failed`), and so does the search for markers
  (`Underway.searched`).
* A step that ends in one of these ways, followed by steps that conclude well, concludes well
  (`Concludes.andThen`).

The reports of a verdict are also the history of the machine (`History`), so a phase that failed is
the last thing that has happened to it.
-/

namespace Trainer

/-- The phase in which a mode is checked; nothing is to be checked beyond a build. -/
def Mode.phase? : Mode → Option Phase
  | .build => none
  | .test => some .test
  | .run _ => some .run
  | .static _ => some .static

/-- The phases before the search for markers. -/
def Mode.checks (m : Mode) : List Phase :=
  .build :: m.phase?.toList

/-- The command line of a phase; a phase without one only looks at the source. -/
def Phase.template? (t : Toolchain) : Phase → Option String
  | .build => some t.build
  | .test => some t.test
  | .run => some t.run
  | .static => none
  | .todoScan => none

/-- What is said of a phase that ran out of time. -/
def Phase.timeoutText (p : Phase) (limit : Duration) : String :=
  p.label ++ " timed out after " ++ limit.render

namespace Verdict

/-- The output of the last phase that is not the search for markers. -/
def lastOutput (phases : List PhaseReport) : String :=
  ((phases.filter (·.phase != .todoScan)).getLast?.map (·.output)).getD ""

/-- A verdict on an exercise with such checks and such a time limit agrees with itself. -/
structure WellFormed (checks : List Phase) (limit : Duration) (v : Verdict) : Prop where
  /-- The phases ran in their order, from the first one on. -/
  phases : v.phases.map (·.phase) <+: checks ++ [.todoScan]
  /-- Only the last phase can have failed. -/
  passed : ∀ p ∈ v.phases.dropLast, p.success = true ∧ p.timedOut = false
  /-- Markers are looked for only when all checks have passed. -/
  checked : (∃ p ∈ v.phases, p.phase = .todoScan) →
    ∀ c ∈ checks, ∃ p ∈ v.phases, p.phase = c ∧ p.success = true
  /-- Markers are told of exactly when the search for them has failed. -/
  todos : v.todos ≠ [] ↔ ∃ p ∈ v.phases, p.phase = .todoScan ∧ p.success = false
  /-- A verdict has a message unless it is a success. -/
  success_iff_error : v.success = true ↔ v.error = none
  /-- A success ends with a search that found no markers, and nothing else does. -/
  success_iff_last : v.success = true ↔
    ∃ p ∈ v.phases.getLast?, p.phase = .todoScan ∧ p.success = true
  /-- A phase that ran out of time is the last one, has failed, and is what the message is about. -/
  timedOut : ∀ p ∈ v.phases, p.timedOut = true → v.phases.getLast? = some p ∧
    p.success = false ∧ v.error = some (p.phase.timeoutText limit)
  /-- The output is that of the last phase that has one. -/
  output : v.output = lastOutput v.phases

/-- Every phase so far has passed, and nothing else has been noted. -/
structure Underway (done : List Phase) (v : Verdict) : Prop where
  phases : v.phases.map (·.phase) = done
  passed : ∀ p ∈ v.phases, p.success = true ∧ p.timedOut = false
  error : v.error = none
  todos : v.todos = []
  output : v.output = lastOutput v.phases

theorem underway_start (name : String) : (start name).Underway [] where
  phases := rfl
  passed := by simp [start]
  error := rfl
  todos := rfl
  output := rfl

/-- The output of a verdict is that of its last phase before the scan. -/
theorem lastOutput_append {phases : List PhaseReport} {p : PhaseReport}
    (hp : p.phase ≠ .todoScan) : lastOutput (phases ++ [p]) = p.output := by
  simp [lastOutput, hp]

/-- The search for markers has no output of its own. -/
theorem lastOutput_append_todoScan {phases : List PhaseReport} {p : PhaseReport}
    (hp : p.phase = .todoScan) : lastOutput (phases ++ [p]) = lastOutput phases := by
  simp [lastOutput, hp]

variable {checks done : List Phase} {limit : Duration} {v : Verdict} {p : PhaseReport}

/-- One more phase that succeeded leaves a verdict underway. -/
theorem Underway.addPhase (h : v.Underway done) (hphase : p.phase ≠ .todoScan)
    (hsuccess : p.success = true) (htime : p.timedOut = false) :
    (v.addPhase p).Underway (done ++ [p.phase]) where
  phases := by simp [Verdict.addPhase, h.phases]
  passed := by
    intro q hq
    rcases List.mem_append.1 hq with hq | hq
    · exact h.passed q hq
    · rw [List.mem_singleton.1 hq]
      exact ⟨hsuccess, htime⟩
  error := h.error
  todos := h.todos
  output := (lastOutput_append hphase).symm

/-- A verdict with a message and no search for markers is well formed if its phases are. -/
theorem wellFormed_of_error {message : String} (herror : v.error = some message)
    (htodos : v.todos = []) (hphases : v.phases.map (·.phase) <+: checks)
    (hchecks : Phase.todoScan ∉ checks)
    (hpassed : ∀ p ∈ v.phases.dropLast, p.success = true ∧ p.timedOut = false)
    (htime : ∀ p ∈ v.phases, p.timedOut = true → v.phases.getLast? = some p ∧
      p.success = false ∧ v.error = some (p.phase.timeoutText limit))
    (houtput : v.output = lastOutput v.phases) (d : Duration) :
    (v.finish d).WellFormed checks limit := by
  have hne : ∀ p ∈ v.phases, p.phase ≠ .todoScan := by
    rintro p hp heq
    exact hchecks (heq ▸ hphases.subset (List.mem_map_of_mem hp))
  have hfailed : (v.finish d).success = false :=
    success_finish_of_error (by simp [herror]) d
  refine ⟨hphases.trans (List.prefix_append _ _), hpassed, ?_, ?_, ?_, ?_, htime, houtput⟩
  · rintro ⟨p, hp, hscan⟩
    exact absurd hscan (hne p hp)
  · refine ⟨fun hmarkers => absurd htodos hmarkers, ?_⟩
    rintro ⟨p, hp, hscan, -⟩
    exact absurd hscan (hne p hp)
  · rw [hfailed]
    simp [finish, herror]
  · rw [hfailed]
    refine ⟨fun hno => absurd hno (by simp), ?_⟩
    rintro ⟨p, hp, hscan, -⟩
    exact absurd hscan (hne p (List.mem_of_mem_getLast? hp))

/-- A verdict that is underway has no error yet, so a failure sets its own. -/
theorem Underway.error_fail (h : v.Underway done) (message : String) :
    (v.fail message).error = some message := by
  simp [fail, h.error]

/-- A validation that breaks off between two phases leaves a well-formed verdict. -/
theorem Underway.brokenOff (h : v.Underway done) (hdone : done <+: checks)
    (hchecks : Phase.todoScan ∉ checks) (message : String) (d : Duration) :
    ((v.fail message).finish d).WellFormed checks limit := by
  refine wellFormed_of_error (h.error_fail message) h.todos (h.phases ▸ hdone) hchecks
    (fun q hq => h.passed q (List.mem_of_mem_dropLast hq)) (fun q hq htime => ?_) h.output d
  rw [(h.passed q hq).2] at htime
  exact absurd htime (by simp)

/-- A validation that stops at a phase that failed leaves a well-formed verdict. -/
theorem Underway.failed (h : v.Underway done) (hdone : done ++ [p.phase] <+: checks)
    (hchecks : Phase.todoScan ∉ checks) (hsuccess : p.success = false) {message : String}
    (htime : p.timedOut = true → message = p.phase.timeoutText limit) (d : Duration) :
    (((v.addPhase p).fail message).finish d).WellFormed checks limit := by
  have hphase : p.phase ≠ .todoScan := by
    rintro heq
    exact hchecks (heq ▸ hdone.subset (by simp))
  have herror : ((v.addPhase p).fail message).error = some message := by
    simp [fail, Verdict.addPhase, h.error]
  refine wellFormed_of_error herror h.todos ?_ hchecks ?_ ?_ (lastOutput_append hphase).symm d
  · change (v.phases ++ [p]).map (·.phase) <+: checks
    rw [List.map_append, h.phases]
    exact hdone
  · change ∀ q ∈ (v.phases ++ [p]).dropLast, _
    rw [List.dropLast_concat]
    exact h.passed
  · intro q hq hout
    rcases List.mem_append.1 hq with hq | hq
    · rw [(h.passed q hq).2] at hout
      exact absurd hout (by simp)
    · obtain rfl := List.mem_singleton.1 hq
      exact ⟨List.getLast?_concat, hsuccess, by rw [herror, htime hout]⟩

/-! ## The search for markers -/

def searchReport (markers : List Marker) : PhaseReport :=
  ⟨.todoScan, markers.isEmpty, "", false, Duration.zero⟩

/-- A verdict with the report of a search for markers, and what it has found. -/
def addSearch (v : Verdict) (markers : List Marker) : Verdict :=
  { v with phases := v.phases ++ [searchReport markers], todos := markers }

/-- Behind the scan every phase was in time, and none but the scan may have failed. -/
theorem Underway.mem_addSearch (h : v.Underway checks) {markers : List Marker}
    (hp : p ∈ v.phases ++ [searchReport markers]) :
    p.timedOut = false ∧ (p.success = true ∨ p = searchReport markers) := by
  rcases List.mem_append.1 hp with hp | hp
  · exact ⟨(h.passed p hp).2, .inl (h.passed p hp).1⟩
  · rw [List.mem_singleton.1 hp]
    exact ⟨rfl, .inr rfl⟩

/-- A validation that has come to the search for markers leaves a well-formed verdict. -/
theorem Underway.searched (h : v.Underway checks) {markers : List Marker}
    {error : Option String} (herror : error = none ↔ markers = []) (d : Duration) :
    ({ v.addSearch markers with error := error }.finish d).WellFormed checks limit := by
  have hsuccess : ({ v.addSearch markers with error := error }.finish d).success = true ↔
      markers = [] := by
    have hall : v.phases.all (·.success) = true :=
      List.all_eq_true.2 fun q hq => (h.passed q hq).1
    simp [finish, addSearch, searchReport, herror, hall]
  refine ⟨?_, ?_, fun _ c hc => ?_, ?_, ?_, ?_, fun q hq htime => ?_, ?_⟩
  · change (v.phases ++ [searchReport markers]).map (·.phase) <+: _
    rw [List.map_append, h.phases]
    exact List.prefix_rfl
  · change ∀ q ∈ (v.phases ++ [searchReport markers]).dropLast, _
    rw [List.dropLast_concat]
    exact h.passed
  · rw [← h.phases] at hc
    obtain ⟨q, hq, rfl⟩ := List.mem_map.1 hc
    exact ⟨q, List.mem_append_left _ hq, rfl, (h.passed q hq).1⟩
  · change markers ≠ [] ↔ ∃ q ∈ v.phases ++ [searchReport markers], _
    constructor
    · intro hmarkers
      refine ⟨searchReport markers, by simp, rfl, ?_⟩
      simp [searchReport, hmarkers]
    · rintro ⟨q, hq, -, hfailed⟩ rfl
      rcases (h.mem_addSearch hq).2 with hpassed | rfl
      · rw [hpassed] at hfailed
        exact absurd hfailed (by simp)
      · exact absurd hfailed (by simp [searchReport])
  · rw [hsuccess]
    exact herror.symm
  · rw [hsuccess]
    change markers = [] ↔ ∃ q ∈ (v.phases ++ [searchReport markers]).getLast?, _
    simp [searchReport]
  · rw [(h.mem_addSearch hq).1] at htime
    exact absurd htime (by simp)
  · change v.output = lastOutput (v.phases ++ [searchReport markers])
    rw [lastOutput_append_todoScan rfl]
    exact h.output

end Verdict

namespace Runner

variable {σ : Type}

/-! ## The history of the machine -/

section History

variable (host : Host σ) (r : Runner) (e : Exercise)

/-- What a phase with this report did to the machine: its command ran, or it only looked. -/
inductive Worked (p : PhaseReport) (s : σ) : σ → Prop where
  | ran {template : String} {run : CommandRun} {s' : σ} :
      p.phase.template? r.toolchain = some template → Ended host r e template s run s' →
      p.output = run.combined → p.timedOut = run.timedOut → Worked p s s'
  | looked : p.phase.template? r.toolchain = none → Worked p s s

/-- The machine after phases with these reports, and after nothing else. -/
inductive History (s₀ : σ) : List PhaseReport → σ → Prop where
  | start : History s₀ [] s₀
  | phase {ps : List PhaseReport} {p : PhaseReport} {s s' : σ} :
      History s₀ ps s → Worked host r e p s s' → History s₀ (ps ++ [p]) s'

end History

variable {host : Host σ} {r : Runner} {e : Exercise}

/-! ## How a step ends -/

/-- The ways in which a step ends that has one phase to add. -/
inductive StepEnd (host : Host σ) (r : Runner) (e : Exercise) (phase : Phase) (v : Verdict)
    (s : σ) : (Verdict × Bool) × σ → Prop where
  | passed {p : PhaseReport} {s' : σ} : p.phase = phase → p.success = true →
      p.timedOut = false → Worked host r e p s s' →
      StepEnd host r e phase v s ((v.addPhase p, true), s')
  | failed {p : PhaseReport} {message : String} {s' : σ} : p.phase = phase →
      p.success = false → (p.timedOut = true → message = p.phase.timeoutText (r.timeoutFor e)) →
      Worked host r e p s s' →
      StepEnd host r e phase v s (((v.addPhase p).fail message, false), s')
  | brokenOff {message : String} {s' : σ} : StepEnd host r e phase v s ((v.fail message, false), s')

/-- A phase that did not pass is told of by its time limit if it ran into that. -/
theorem record_failed (v : Verdict) {p : PhaseReport} (failure : String) (limit : Duration)
    (hs : p.success = false) : record v p failure limit =
      ((v.addPhase p).fail (if p.timedOut then p.phase.timeoutText limit else failure), false) := by
  cases htime : p.timedOut with
  | true => simp [record, htime, hs, Phase.timeoutText]
  | false => simp [record, htime, hs]

/-- A step that reports the run of a command ends in one of the ways of `StepEnd`. -/
theorem reportStep_end {phase : Phase} {template : String} {report : CommandRun → PhaseReport}
    {failure : CommandRun → String} (htemplate : phase.template? r.toolchain = some template)
    (hphase : ∀ run, (report run).phase = phase)
    (houtput : ∀ run, (report run).output = run.combined)
    (htime : ∀ run, (report run).timedOut = run.timedOut)
    (hsuccess : ∀ run, (report run).success = true → run.timedOut = false) (v : Verdict) (s : σ) :
    StepEnd host r e phase v s (reportStep host r e template report failure v s) := by
  unfold reportStep
  rcases hexec : execute host r e template s with ⟨_ | run, s'⟩
  · exact .brokenOff
  · have hworked : Worked host r e (report run) s s' :=
      .ran (by rw [hphase]; exact htemplate) (execute_eq_ok_iff.1 hexec) (houtput run) (htime run)
    cases hs : (report run).success with
    | true =>
        have hlimit : (report run).timedOut = false := (htime run).trans (hsuccess run hs)
        simp only [record_of_success v (failure run) _ hlimit hs]
        exact .passed (hphase run) hs hlimit hworked
    | false =>
        simp only [record_failed v (failure run) _ hs]
        exact .failed (hphase run) hs (fun hlimit => by rw [if_pos hlimit]) hworked

theorem commandStep_end {phase : Phase} {template : String}
    (htemplate : phase.template? r.toolchain = some template) (failure : String) (v : Verdict)
    (s : σ) : StepEnd host r e phase v s (commandStep host r e phase template failure v s) := by
  let report (run : CommandRun) : PhaseReport :=
    ⟨phase, run.success, run.combined, run.timedOut, run.elapsed⟩
  have h : StepEnd host r e phase v s
      (reportStep host r e template report (fun _ => failure) v s) :=
    reportStep_end htemplate (fun _ => rfl) (fun _ => rfl) (fun _ => rfl)
      (fun run hs => (run.success_iff.1 hs).1) v s
  exact h

theorem testStep_end (v : Verdict) (s : σ) :
    StepEnd host r e .test v s (testStep host r e v s) := by
  unfold testStep
  split
  · exact commandStep_end rfl _ v s
  · exact .brokenOff

theorem runStep_end (expected : Option String) (v : Verdict) (s : σ) :
    StepEnd host r e .run v s (runStep host r e expected v s) := by
  have htime (run : CommandRun) (hs : (runReport expected run).success = true) :
      run.timedOut = false := by
    rw [runReport_success_iff] at hs
    cases expected with
    | none => exact hs.1
    | some text => exact hs.1
  have hphase (run : CommandRun) : (runReport expected run).phase = .run := rfl
  have h : StepEnd host r e .run v s
      (reportStep host r e r.toolchain.run (runReport expected) (runFailure expected) v s) :=
    reportStep_end rfl hphase (fun _ => rfl) (fun _ => rfl) htime v s
  exact h

theorem staticStep_end (id : String) (v : Verdict) (s : σ) :
    StepEnd host r e .static v s (staticStep host r e id v s) := by
  unfold staticStep
  cases r.checks.get? id with
  | none => exact .brokenOff
  | some check =>
      dsimp only
      cases check.check host e.sourcePath s with
      | error cause => exact .brokenOff
      | ok outcome =>
          cases hpass : outcome.passed with
          | true =>
              simp only [hpass, if_true]
              exact .passed rfl rfl rfl (.looked rfl)
          | false =>
              simp only [hpass]
              exact .failed rfl rfl (fun hno => absurd hno (by simp)) (.looked rfl)

/-! ## How a validation concludes -/

/-- A verdict that a validation has come to, and the machine after it. -/
structure Concluded (host : Host σ) (r : Runner) (e : Exercise) (s₀ : σ) (v : Verdict) (s : σ) :
    Prop where
  wellFormed : ∀ d, (v.finish d).WellFormed e.validation.mode.checks (r.timeoutFor e)
  /-- After a phase that failed nothing else has happened to the machine. -/
  history : (∃ p ∈ v.phases, p.success = false) → History host r e s₀ v.phases s

/-- A step makes a conclusion of a verdict that is underway. -/
def Concludes (host : Host σ) (r : Runner) (e : Exercise) (s₀ : σ) (done : List Phase)
    (step : Step σ) : Prop :=
  ∀ v s, v.Underway done → History host r e s₀ v.phases s →
    Concluded host r e s₀ (step v s).1.1 (step v s).2

theorem todoScan_not_mem_checks (m : Mode) : Phase.todoScan ∉ m.checks := by
  cases m <;> simp [Mode.checks, Mode.phase?]

/-- A verdict that breaks off underway is a conclusion. -/
theorem Concluded.of_brokenOff {s₀ s : σ} {v : Verdict} {done : List Phase}
    (h : v.Underway done) (hdone : done <+: e.validation.mode.checks) (message : String) :
    Concluded host r e s₀ (v.fail message) s := by
  refine ⟨h.brokenOff hdone (todoScan_not_mem_checks _) message, ?_⟩
  rintro ⟨p, hp, hfailed⟩
  rw [(h.passed p hp).1] at hfailed
  exact absurd hfailed (by simp)

/-- A step with one phase, and steps that conclude what it leaves underway. -/
theorem Concludes.andThen {s₀ : σ} {done : List Phase} {phase : Phase} {first second : Step σ}
    (hsecond : Concludes host r e s₀ (done ++ [phase]) second)
    (hfirst : ∀ v s, StepEnd host r e phase v s (first v s))
    (hdone : done ++ [phase] <+: e.validation.mode.checks) :
    Concludes host r e s₀ done (first.andThen second) := by
  intro v s hv hhistory
  have hne : phase ≠ .todoScan := by
    rintro rfl
    exact todoScan_not_mem_checks _ (hdone.subset (by simp))
  have hend := hfirst v s
  unfold Step.andThen
  generalize first v s = out at hend ⊢
  cases hend with
  | brokenOff => exact .of_brokenOff hv ((List.prefix_append _ _).trans hdone) _
  | @passed p _ hphase hsuccess htime hworked =>
      have hv' := hv.addPhase (hphase ▸ hne) hsuccess htime
      rw [hphase] at hv'
      exact hsecond _ _ hv' (hhistory.phase hworked)
  | failed hphase hsuccess htime hworked =>
      rw [← hphase] at hdone
      exact ⟨hv.failed hdone (todoScan_not_mem_checks _) hsuccess htime,
        fun _ => hhistory.phase hworked⟩

/-- The search for markers comes after all checks. -/
theorem todoStep_concludes (s₀ : σ) :
    Concludes host r e s₀ e.validation.mode.checks (todoStep host e) := by
  intro v s hv hhistory
  unfold todoStep
  cases host.readText e.sourcePath s with
  | error cause => exact .of_brokenOff hv List.prefix_rfl _
  | ok content =>
      have hworked : Worked host r e (Verdict.searchReport (Marker.scan content)) s s := .looked rfl
      dsimp only
      split
      case isTrue hnone =>
        rw [List.isEmpty_iff] at hnone
        have herror : v.error = none ↔ Marker.scan content = [] := by simp [hnone, hv.error]
        exact ⟨hv.searched herror, fun _ => hhistory.phase hworked⟩
      case isFalse hsome =>
        rw [List.isEmpty_iff] at hsome
        have herror : v.error.or (some (Marker.describe (Marker.scan content))) = none ↔
            Marker.scan content = [] := by simp [hsome]
        exact ⟨hv.searched herror, fun _ => hhistory.phase hworked⟩

/-- The phase of the mode, if there is one, and the search for markers. -/
theorem modeStep_concludes (s₀ : σ) :
    Concludes host r e s₀ [.build] ((modeStep host r e).andThen (todoStep host e)) := by
  have htodo : Concludes host r e s₀ e.validation.mode.checks (todoStep host e) :=
    todoStep_concludes s₀
  unfold modeStep
  cases hmode : e.validation.mode with
  | build =>
      rw [hmode] at htodo
      exact htodo
  | test =>
      rw [hmode] at htodo
      exact htodo.andThen testStep_end (by rw [hmode]; exact List.prefix_rfl)
  | run expected =>
      rw [hmode] at htodo
      exact htodo.andThen (runStep_end expected) (by rw [hmode]; exact List.prefix_rfl)
  | static id =>
      rw [hmode] at htodo
      exact htodo.andThen (staticStep_end id) (by rw [hmode]; exact List.prefix_rfl)

/-- Building, and all that comes after it. -/
theorem buildStep_concludes (s₀ : σ) :
    Concludes host r e s₀ []
      ((buildStep host r e).andThen ((modeStep host r e).andThen (todoStep host e))) :=
  (modeStep_concludes s₀).andThen (commandStep_end rfl "Build failed") ⟨_, rfl⟩

theorem Step.andThen_of_go {first second : Step σ} {v v' : Verdict} {s s' : σ}
    (h : first v s = ((v', true), s')) : first.andThen second v s = second v' s' := by
  simp only [Step.andThen, h]

theorem Step.andThen_of_stop {first second : Step σ} {v v' : Verdict} {s s' : σ}
    (h : first v s = ((v', false), s')) : first.andThen second v s = ((v', false), s') := by
  simp only [Step.andThen, h]

/-- The step that asks for the required files does not touch the machine. -/
theorem requiredStep_cases (host : Host σ) (e : Exercise) (v : Verdict) (s : σ) :
    requiredStep host e v s = ((v, true), s) ∨
      ∃ message, requiredStep host e v s = ((v.fail message, false), s) := by
  unfold requiredStep
  dsimp only
  split
  · exact .inl rfl
  · exact .inr ⟨_, rfl⟩

/-- The steps conclude from where the machine is prepared, or break off before the first phase. -/
theorem steps_concluded (host : Host σ) (r : Runner) (e : Exercise) (s : σ) :
    (∃ s₀, Prepared host r e s s₀ ∧
        Concluded host r e s₀ (steps host r e (Verdict.start e.name) s).1.1
          (steps host r e (Verdict.start e.name) s).2) ∨
      ∃ message, (steps host r e (Verdict.start e.name) s).1.1 =
        (Verdict.start e.name).fail message := by
  unfold steps
  rcases hprepare : prepare host r e s with ⟨f | ⟨⟩, s₀⟩
  · have hstop : prepareStep host r e (Verdict.start e.name) s =
        (((Verdict.start e.name).fail f.message, false), s₀) := by simp [prepareStep, hprepare]
    exact .inr ⟨f.message, by rw [Step.andThen_of_stop hstop]⟩
  · have hgo : prepareStep host r e (Verdict.start e.name) s =
        ((Verdict.start e.name, true), s₀) := by simp [prepareStep, hprepare]
    rw [Step.andThen_of_go hgo]
    rcases requiredStep_cases host e (Verdict.start e.name) s₀ with
      hgo | ⟨message, hstop⟩
    · rw [Step.andThen_of_go hgo]
      exact .inl ⟨s₀, prepare_eq_ok_iff.1 hprepare,
        buildStep_concludes s₀ _ _ (Verdict.underway_start e.name) .start⟩
    · exact .inr ⟨message, by rw [Step.andThen_of_stop hstop]⟩

/--
Whatever the files, the rules and the commands do, the verdict on an exercise is well formed; and
when a phase has failed, the phases of the verdict are all that has happened to the machine since it
was prepared.
-/
theorem validate_wellFormed (host : Host σ) (r : Runner) (e : Exercise) (s : σ) :
    (validate host r e s).1.WellFormed e.validation.mode.checks (r.timeoutFor e) ∧
      ((∃ p ∈ (validate host r e s).1.phases, p.success = false) →
        ∃ s₀, Prepared host r e s s₀ ∧
          History host r e s₀ (validate host r e s).1.phases (validate host r e s).2) := by
  have hverdict : (validate host r e s).1 = (steps host r e (Verdict.start e.name) s).1.1.finish
      (elapsed (steps host r e (Verdict.start e.name) s).1.1) := rfl
  have hstate : (validate host r e s).2 = (steps host r e (Verdict.start e.name) s).2 := rfl
  rw [hverdict, hstate]
  rcases steps_concluded host r e s with
    ⟨s₀, hprepared, hconcluded⟩ | ⟨message, hbroken⟩
  · exact ⟨hconcluded.wellFormed _, fun hfailed => ⟨s₀, hprepared, hconcluded.history hfailed⟩⟩
  · rw [hbroken]
    refine ⟨(Verdict.underway_start e.name).brokenOff List.nil_prefix (todoScan_not_mem_checks _)
      message _, ?_⟩
    rintro ⟨p, hp, -⟩
    exact absurd hp (by simp [Verdict.fail, Verdict.finish, Verdict.start])

end Runner
end Trainer
