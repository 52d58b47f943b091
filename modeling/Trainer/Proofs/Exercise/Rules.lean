import Mathlib
import Trainer.Exercise.Metadata
import Trainer.Proofs.Duration
import Trainer.Proofs.Marker

/-!
# The rules of metadata

A document of the right form has six rules to keep (`Metadata.Rule`).  What a rule asks for is said
without the program's checks (`Rule.Met`), and so is what a problem tells of a document (`Breaks`).

* A rule is broken exactly when one of its problems is true of the document (`not_met_iff`).
* The problems that are collected are the true ones, but a time limit is not looked at as long as
  the mode is bad (`mem_problems_iff`); they come in the order of the rules, one for each
  (`rules_sublist`).
* `problems_reported` puts this together.  So two broken rules may give one problem only
  (`timeout_not_reported`).
-/

namespace Trainer

/-- A written time limit means a duration. -/
inductive WrittenTimeout.Means : WrittenTimeout → Duration → Prop where
  | seconds (n : Nat) : Means (.seconds n) (Duration.ofSeconds n)
  | text {s : String} {d : Duration} (h : Duration.Denotes s d) : Means (.text s) d

/-- Reading a time limit gives what it means, and nothing else. -/
theorem WrittenTimeout.duration_eq_ok_iff {t : WrittenTimeout} {d : Duration} :
    t.duration = .ok d ↔ t.Means d := by
  cases t with
  | seconds n =>
      constructor
      · intro h
        cases h
        exact .seconds n
      · rintro ⟨⟩
        rfl
  | text s =>
      rw [duration, Duration.parse_eq_ok_iff]
      constructor
      · exact .text
      · rintro ⟨⟩
        assumption

namespace Metadata

/-! ## What the rules ask for -/

/-- A name that passes the check of names. -/
structure NameAllowed (name : String) : Prop where
  ne_empty : name ≠ ""
  slash : '/' ∉ name.toList
  backslash : '\\' ∉ name.toList
  dots : ¬ ['.', '.'] <:+: name.toList

/-- The fields of a document say how it is judged. -/
inductive Judges (m : Metadata) : Mode → Prop where
  | build (h : Text.lower (Text.trim m.mode) = "build") : Judges m .build
  | test (h : Text.lower (Text.trim m.mode) = "test") : Judges m .test
  | run (h : Text.lower (Text.trim m.mode) = "run") : Judges m (.run m.expectedOutput)
  | static (h : Text.lower (Text.trim m.mode) = "static") {id : String}
      (hid : m.staticCheckId = some id) (hink : Text.HasInk id) : Judges m (.static (Text.trim id))

/-- The fields of a document say how long its commands may take. -/
inductive Limits (m : Metadata) : Option Duration → Prop where
  | unlimited (h : m.timeout = none) : Limits m none
  | limited {t : WrittenTimeout} {d : Duration} (ht : m.timeout = some t) (hd : t.Means d)
      (hpos : 0 < d.nanos) : Limits m (some d)

/-- The rules that a document has to keep. -/
inductive Rule where
  | name
  | difficulty
  | title
  | firstHint
  | mode
  | timeout
deriving DecidableEq, Repr

namespace Rule

/-- A document keeps a rule. -/
def Met (m : Metadata) : Rule → Prop
  | name => NameAllowed (Text.trim m.name)
  | difficulty => 1 ≤ m.difficulty ∧ m.difficulty ≤ 5
  | title => Text.HasInk m.title
  | firstHint => Text.HasInk m.hints.level1
  | mode => ∃ mode, m.Judges mode
  | timeout => ∃ limit, m.Limits limit

/-- What a problem with the rule has to mention. -/
def field : Rule → String
  | name => "exercise.name"
  | difficulty => "exercise.difficulty"
  | title => "description.title"
  | firstHint => "hints.level_1"
  | mode => "mode"
  | timeout => "validation.timeout"

/-- The rules in the order of a document's sections. -/
def all : List Rule :=
  [name, difficulty, title, firstHint, mode, timeout]

end Rule

def Problem.rule : Problem → Rule
  | .emptyName => .name
  | .nameWithSeparators _ => .name
  | .difficultyOutOfRange _ => .difficulty
  | .emptyTitle => .title
  | .emptyFirstHint => .firstHint
  | .badMode _ => .mode
  | .badTimeout _ => .timeout
  | .zeroTimeout => .timeout

/-- The wording of a problem mentions the field that its rule is about. -/
theorem Problem.field_infix_message (p : Problem) :
    p.rule.field.toList <:+: p.message.toList := by
  cases p with
  | emptyName => decide +kernel
  | nameWithSeparators name =>
      change "exercise.name".toList <:+:
        ("exercise.name '" ++ name ++ "' must not contain path separators").toList
      rw [String.toList_append, String.toList_append]
      exact List.infix_append_of_infix_left (List.infix_append_of_infix_left (by decide))
  | difficultyOutOfRange d =>
      change "exercise.difficulty".toList <:+:
        ("exercise.difficulty must be between 1 and 5, got " ++ toString d).toList
      rw [String.toList_append]
      exact List.infix_append_of_infix_left (by decide)
  | emptyTitle => decide +kernel
  | emptyFirstHint => decide +kernel
  | badMode cause =>
      cases cause with
      | missingCheckId => decide +kernel
      | unknown word =>
          change "mode".toList <:+: ("unknown validation mode '" ++ word ++ "'").toList
          rw [String.toList_append, String.toList_append]
          exact List.infix_append_of_infix_left (List.infix_append_of_infix_left (by decide))
  | badTimeout cause =>
      change "validation.timeout".toList <:+: ("validation.timeout: " ++ cause.message).toList
      rw [String.toList_append]
      exact List.infix_append_of_infix_left (by decide)
  | zeroTimeout => decide +kernel

/-- A problem is true of a document. -/
inductive Breaks (m : Metadata) : Problem → Prop where
  | emptyName (h : Text.trim m.name = "") : Breaks m .emptyName
  | nameWithSeparators (hne : Text.trim m.name ≠ "")
      (h : '/' ∈ (Text.trim m.name).toList ∨ '\\' ∈ (Text.trim m.name).toList ∨
        ['.', '.'] <:+: (Text.trim m.name).toList) :
      Breaks m (.nameWithSeparators (Text.trim m.name))
  | difficultyOutOfRange (h : m.difficulty < 1 ∨ 5 < m.difficulty) :
      Breaks m (.difficultyOutOfRange m.difficulty)
  | emptyTitle (h : ¬ Text.HasInk m.title) : Breaks m .emptyTitle
  | emptyFirstHint (h : ¬ Text.HasInk m.hints.level1) : Breaks m .emptyFirstHint
  | missingCheckId (h : Text.lower (Text.trim m.mode) = "static")
      (hid : ∀ id, m.staticCheckId = some id → ¬ Text.HasInk id) :
      Breaks m (.badMode .missingCheckId)
  | unknownMode (h : Text.lower (Text.trim m.mode) ∉ ["build", "test", "run", "static"]) :
      Breaks m (.badMode (.unknown (Text.lower (Text.trim m.mode))))
  | badTimeout {t : WrittenTimeout} {cause : Duration.ParseError} (ht : m.timeout = some t)
      (h : t.duration = .error cause) : Breaks m (.badTimeout cause)
  | zeroTimeout {t : WrittenTimeout} {d : Duration} (ht : m.timeout = some t) (hd : t.Means d)
      (hzero : d.nanos = 0) : Breaks m .zeroTimeout

variable {m : Metadata} {p : Problem}

/-! ## The checks -/

/-- What the check of names looks for: a slash, a backslash, or two dots in a row. -/
theorem hasSeparators_iff (name : String) : hasSeparators name = true ↔
    '/' ∈ name.toList ∨ '\\' ∈ name.toList ∨ ['.', '.'] <:+: name.toList := by
  simp [hasSeparators, Chars.occursIn_iff, or_assoc]

/-- The check of names tells what is true of the name. -/
theorem mem_nameProblems_iff : p ∈ m.nameProblems ↔ m.Breaks p ∧ p.rule = .name := by
  unfold nameProblems
  dsimp only
  constructor
  · intro h
    split at h
    · rename_i hempty
      rw [List.mem_singleton.1 h]
      exact ⟨.emptyName hempty, rfl⟩
    · rename_i hne
      split at h
      · rename_i hsep
        rw [List.mem_singleton.1 h]
        exact ⟨.nameWithSeparators hne ((hasSeparators_iff _).1 hsep), rfl⟩
      · cases h
  · rintro ⟨hbreaks, hrule⟩
    cases hbreaks with
    | emptyName h => simp [h]
    | nameWithSeparators hne h => simp [hne, (hasSeparators_iff _).2 h]
    | _ => cases hrule

/-- A section with one check tells of its problem exactly when the problem is true. -/
theorem mem_ite_iff {c : Prop} [Decidable c] {q : Problem} (hc : c → m.Breaks q)
    (honly : ∀ r, m.Breaks r → r.rule = q.rule → r = q ∧ c) :
    p ∈ (if c then [q] else []) ↔ m.Breaks p ∧ p.rule = q.rule := by
  constructor
  · intro h
    split at h
    · rename_i hbroken
      rw [List.mem_singleton.1 h]
      exact ⟨hc hbroken, rfl⟩
    · cases h
  · rintro ⟨hbreaks, hrule⟩
    obtain ⟨rfl, hbroken⟩ := honly p hbreaks hrule
    rw [if_pos hbroken]
    exact List.mem_singleton_self p

theorem mem_difficultyProblems_iff :
    p ∈ (if 1 ≤ m.difficulty ∧ m.difficulty ≤ 5 then []
        else [Problem.difficultyOutOfRange m.difficulty]) ↔
      m.Breaks p ∧ p.rule = .difficulty := by
  rw [← ite_not]
  apply mem_ite_iff
  · intro h
    exact .difficultyOutOfRange (by omega)
  · intro r hbreaks hrule
    cases hbreaks with
    | difficultyOutOfRange h => exact ⟨rfl, by omega⟩
    | _ => cases hrule

theorem mem_titleProblems_iff :
    p ∈ (if Text.isBlank m.title then [Problem.emptyTitle] else []) ↔
      m.Breaks p ∧ p.rule = .title := by
  apply mem_ite_iff
  · intro h
    exact .emptyTitle (Text.isBlank_iff.1 h)
  · intro r hbreaks hrule
    cases hbreaks with
    | emptyTitle h => exact ⟨rfl, Text.isBlank_iff.2 h⟩
    | _ => cases hrule

theorem mem_firstHintProblems_iff :
    p ∈ (if Text.isBlank m.hints.level1 then [Problem.emptyFirstHint] else []) ↔
      m.Breaks p ∧ p.rule = .firstHint := by
  apply mem_ite_iff
  · intro h
    exact .emptyFirstHint (Text.isBlank_iff.1 h)
  · intro r hbreaks hrule
    cases hbreaks with
    | emptyFirstHint h => exact ⟨rfl, Text.isBlank_iff.2 h⟩
    | _ => cases hrule

/-! ## The settings -/

/-- The check id that is looked at is there and not blank, or the trimmed one is empty. -/
theorem trim_getD_ne_empty_iff {checkId : Option String} :
    Text.trim (checkId.getD "") ≠ "" ↔ ∃ id, checkId = some id ∧ Text.HasInk id := by
  rw [Text.trim_ne_empty_iff]
  cases checkId with
  | none => simp [Text.HasInk]
  | some id => simp

/-- Reading the mode comes to a mode that the document asks for, or to what is wrong with it. -/
theorem parse_mode (m : Metadata) :
    (∃ mode, Mode.parse m.mode m.expectedOutput m.staticCheckId = .ok mode ∧ m.Judges mode) ∨
      ∃ cause, Mode.parse m.mode m.expectedOutput m.staticCheckId = .error cause ∧
        m.Breaks (.badMode cause) := by
  unfold Mode.parse
  dsimp only
  split
  · rename_i h
    exact .inl ⟨.build, rfl, .build h⟩
  split
  · rename_i h
    exact .inl ⟨.test, rfl, .test h⟩
  split
  · rename_i h
    exact .inl ⟨.run m.expectedOutput, rfl, .run h⟩
  split
  · rename_i hbuild htest hrun hstatic
    split
    · rename_i hempty
      refine .inr ⟨.missingCheckId, rfl, .missingCheckId hstatic fun id hid hink => ?_⟩
      exact trim_getD_ne_empty_iff.2 ⟨id, hid, hink⟩ hempty
    · rename_i hne
      obtain ⟨id, hid, hink⟩ := trim_getD_ne_empty_iff.1 hne
      rw [hid, Option.getD_some]
      exact .inl ⟨.static (Text.trim id), rfl, .static hstatic hid hink⟩
  · -- None of the four words has been found.
    rename_i hbuild htest hrun hstatic
    exact .inr ⟨_, rfl, .unknownMode (by simp [*])⟩

/-- The time limit of a mode that could be read is good, or the problem with it is told. -/
theorem read_timeout (m : Metadata) :
    (∃ limit, m.Limits limit ∧ ∀ mode,
      Mode.parse m.mode m.expectedOutput m.staticCheckId = .ok mode →
        m.validation = .ok ⟨mode, limit, m.requiredFiles⟩) ∨
      ∃ p, m.Breaks p ∧ p.rule = .timeout ∧ ∀ mode,
        Mode.parse m.mode m.expectedOutput m.staticCheckId = .ok mode →
          m.validation = .error p := by
  cases ht : m.timeout with
  | none => exact .inl ⟨none, .unlimited ht, fun mode hmode => by rw [validation, hmode, ht]⟩
  | some t =>
      cases hd : t.duration with
      | error cause =>
          refine .inr ⟨.badTimeout cause, .badTimeout ht hd, rfl, fun mode hmode => ?_⟩
          simp only [validation, hmode, ht, hd]
      | ok d =>
          have hmeans : t.Means d := WrittenTimeout.duration_eq_ok_iff.1 hd
          rcases Nat.eq_zero_or_pos d.nanos with hzero | hpos
          · refine .inr ⟨.zeroTimeout, .zeroTimeout ht hmeans hzero, rfl, fun mode hmode => ?_⟩
            simp [validation, hmode, ht, hd, Duration.isZero, hzero]
          · refine .inl ⟨some d, .limited ht hmeans hpos, fun mode hmode => ?_⟩
            simp [validation, hmode, ht, hd, Duration.isZero, hpos.ne']

/-! ## Broken rules -/

/-- A problem that is true of a document is one with a rule that it breaks. -/
theorem Breaks.not_met (h : m.Breaks p) : ¬ p.rule.Met m := by
  intro hmet
  cases h with
  | emptyName h => exact hmet.ne_empty h
  | nameWithSeparators hne h =>
      rcases h with hslash | hbackslash | hdots
      · exact hmet.slash hslash
      · exact hmet.backslash hbackslash
      · exact hmet.dots hdots
  | difficultyOutOfRange h =>
      obtain ⟨hlow, hhigh⟩ := hmet
      omega
  | emptyTitle h => exact h hmet
  | emptyFirstHint h => exact h hmet
  | missingCheckId h hid =>
      -- Another mode would have another word.
      obtain ⟨mode, hjudges⟩ := hmet
      cases hjudges with
      | static _ hid' hink => exact hid _ hid' hink
      | _ h' => exact absurd (h.symm.trans h') (by decide)
  | unknownMode h =>
      obtain ⟨mode, hjudges⟩ := hmet
      cases hjudges <;> simp_all
  | badTimeout ht h =>
      obtain ⟨limit, hlimits⟩ := hmet
      cases hlimits with
      | unlimited hnone => exact absurd (ht.symm.trans hnone) (by simp)
      | limited ht' hd _ =>
          obtain rfl := Option.some.inj (ht.symm.trans ht')
          rw [WrittenTimeout.duration_eq_ok_iff.2 hd] at h
          cases h
  | zeroTimeout ht hd hzero =>
      obtain ⟨limit, hlimits⟩ := hmet
      cases hlimits with
      | unlimited hnone => exact absurd (ht.symm.trans hnone) (by simp)
      | limited ht' hd' hpos =>
          obtain rfl := Option.some.inj (ht.symm.trans ht')
          rw [← WrittenTimeout.duration_eq_ok_iff] at hd hd'
          obtain rfl := Except.ok.inj (hd.symm.trans hd')
          omega

/-- A rule that is broken has a problem to tell of it. -/
theorem exists_breaks_of_not_met {rule : Rule} (h : ¬ rule.Met m) :
    ∃ p, m.Breaks p ∧ p.rule = rule := by
  cases rule with
  | name =>
      by_cases hempty : Text.trim m.name = ""
      · exact ⟨_, .emptyName hempty, rfl⟩
      · refine ⟨_, .nameWithSeparators hempty ?_, rfl⟩
        by_contra hno
        rw [not_or, not_or] at hno
        exact h ⟨hempty, hno.1, hno.2.1, hno.2.2⟩
  | difficulty => exact ⟨_, .difficultyOutOfRange (by simp only [Rule.Met] at h; omega), rfl⟩
  | title => exact ⟨_, .emptyTitle h, rfl⟩
  | firstHint => exact ⟨_, .emptyFirstHint h, rfl⟩
  | mode =>
      rcases parse_mode m with ⟨mode, -, hjudges⟩ | ⟨cause, -, hbreaks⟩
      · exact absurd ⟨mode, hjudges⟩ h
      · exact ⟨_, hbreaks, rfl⟩
  | timeout =>
      rcases read_timeout m with ⟨limit, hlimits, -⟩ | ⟨p, hbreaks, hrule, -⟩
      · exact absurd ⟨limit, hlimits⟩ h
      · exact ⟨p, hbreaks, hrule⟩

/-- A rule is broken exactly when a problem with it is true of the document. -/
theorem not_met_iff {rule : Rule} : ¬ rule.Met m ↔ ∃ p, m.Breaks p ∧ p.rule = rule := by
  constructor
  · exact exists_breaks_of_not_met
  · rintro ⟨p, hbreaks, rfl⟩
    exact hbreaks.not_met

/-- A rule is broken in one way only. -/
theorem Breaks.unique {q : Problem} (hp : m.Breaks p) (hq : m.Breaks q) (h : p.rule = q.rule) :
    p = q := by
  -- Problems with different rules do not meet, and of two with one rule the checks exclude one.
  cases hp with
  | emptyName hempty =>
      cases hq with
      | emptyName => rfl
      | nameWithSeparators hne => exact absurd hempty hne
      | _ => cases h
  | nameWithSeparators hne =>
      cases hq with
      | emptyName hempty => exact absurd hempty hne
      | nameWithSeparators => rfl
      | _ => cases h
  | difficultyOutOfRange =>
      cases hq with
      | difficultyOutOfRange => rfl
      | _ => cases h
  | emptyTitle =>
      cases hq with
      | emptyTitle => rfl
      | _ => cases h
  | emptyFirstHint =>
      cases hq with
      | emptyFirstHint => rfl
      | _ => cases h
  | missingCheckId hstatic =>
      cases hq with
      | missingCheckId => rfl
      | unknownMode hunknown => simp [hstatic] at hunknown
      | _ => cases h
  | unknownMode hunknown =>
      cases hq with
      | missingCheckId hstatic => simp [hstatic] at hunknown
      | unknownMode => rfl
      | _ => cases h
  | badTimeout ht hcause =>
      cases hq with
      | badTimeout ht' hcause' =>
          obtain rfl := Option.some.inj (ht.symm.trans ht')
          rw [Except.error.inj (hcause.symm.trans hcause')]
      | zeroTimeout ht' hd =>
          obtain rfl := Option.some.inj (ht.symm.trans ht')
          rw [WrittenTimeout.duration_eq_ok_iff.2 hd] at hcause
          cases hcause
      | _ => cases h
  | zeroTimeout ht hd =>
      cases hq with
      | badTimeout ht' hcause =>
          obtain rfl := Option.some.inj (ht.symm.trans ht')
          rw [WrittenTimeout.duration_eq_ok_iff.2 hd] at hcause
          cases hcause
      | zeroTimeout => rfl
      | _ => cases h

/-! ## The settings and the list of problems -/

/-- The settings follow the document, or a problem with the mode or the time limit is told. -/
theorem settings (m : Metadata) :
    (∃ v, m.validation = .ok v ∧ m.Judges v.mode ∧ m.Limits v.timeout) ∨
      ∃ p, m.validation = .error p ∧ m.Breaks p ∧
        (p.rule = .mode ∨ p.rule = .timeout ∧ Rule.mode.Met m) := by
  rcases parse_mode m with ⟨mode, hmode, hjudges⟩ | ⟨cause, hmode, hbreaks⟩
  · rcases read_timeout m with ⟨limit, hlimits, hok⟩ | ⟨p, hbreaks, hrule, herror⟩
    · exact .inl ⟨_, hok mode hmode, hjudges, hlimits⟩
    · exact .inr ⟨p, herror mode hmode, hbreaks, .inr ⟨hrule, mode, hjudges⟩⟩
  · exact .inr ⟨_, by rw [validation, hmode], hbreaks, .inl rfl⟩

/-- Settings that can be read are those that the document asks for. -/
theorem of_validation_eq_ok {v : Validation} (h : m.validation = .ok v) :
    m.Judges v.mode ∧ m.Limits v.timeout := by
  rcases settings m with ⟨v', hv, hsettings⟩ | ⟨p, hp, -⟩
  · obtain rfl := Except.ok.inj (h.symm.trans hv)
    exact hsettings
  · rw [hp] at h
    cases h

/-- Of mode and time limit one problem is told: that of the mode, if there is one. -/
theorem validation_eq_error_iff : m.validation = .error p ↔
    m.Breaks p ∧ (p.rule = .mode ∨ p.rule = .timeout ∧ Rule.mode.Met m) := by
  constructor
  · intro h
    rcases settings m with ⟨v, hv, -⟩ | ⟨q, hq, hbreaks⟩
    · rw [hv] at h
      cases h
    · obtain rfl := Except.error.inj (h.symm.trans hq)
      exact hbreaks
  · rintro ⟨hp, hrule⟩
    have hno : ¬ p.rule.Met m := hp.not_met
    rcases settings m with ⟨v, -, hjudges, hlimits⟩ | ⟨q, hq, hbreaks, hrule'⟩
    · rcases hrule with hmode | ⟨htimeout, -⟩
      · rw [hmode] at hno
        exact absurd ⟨_, hjudges⟩ hno
      · rw [htimeout] at hno
        exact absurd ⟨_, hlimits⟩ hno
    · -- Of the two rules, only one can have been told of.
      have hno' : ¬ q.rule.Met m := hbreaks.not_met
      have hsame : p.rule = q.rule := by
        rcases hrule with hmode | ⟨htimeout, hmet⟩ <;>
          rcases hrule' with hmode' | ⟨htimeout', hmet'⟩
        · rw [hmode, hmode']
        · rw [hmode] at hno
          exact absurd hmet' hno
        · rw [hmode'] at hno'
          exact absurd hmet hno'
        · rw [htimeout, htimeout']
      rw [hp.unique hbreaks hsame, hq]

def settingsProblems (m : Metadata) : List Problem :=
  match m.validation with
  | .ok _ => []
  | .error q => [q]

theorem mem_settingsProblems_iff : p ∈ m.settingsProblems ↔
    m.Breaks p ∧ (p.rule = .mode ∨ p.rule = .timeout ∧ Rule.mode.Met m) := by
  rw [← validation_eq_error_iff, settingsProblems]
  cases m.validation with
  | ok v => simp
  | error q => simp [eq_comm]

theorem problems_eq (m : Metadata) : m.problems =
    m.nameProblems ++
      (if 1 ≤ m.difficulty ∧ m.difficulty ≤ 5 then []
        else [.difficultyOutOfRange m.difficulty]) ++
      (if Text.isBlank m.title then [.emptyTitle] else []) ++
      (if Text.isBlank m.hints.level1 then [.emptyFirstHint] else []) ++ m.settingsProblems := by
  unfold problems settingsProblems
  cases m.validation <;> rfl

/-- A true problem is collected, unless it is about a time limit and the mode is bad too. -/
theorem mem_problems_iff :
    p ∈ m.problems ↔ m.Breaks p ∧ (p.rule = .timeout → Rule.mode.Met m) := by
  simp only [problems_eq, List.mem_append, mem_nameProblems_iff, mem_difficultyProblems_iff,
    mem_titleProblems_iff, mem_firstHintProblems_iff, mem_settingsProblems_iff]
  cases hrule : p.rule <;> simp

/-- The settings have at most two problems, that of the mode first. -/
theorem map_rule_settingsProblems (m : Metadata) :
    (m.settingsProblems.map Problem.rule).Sublist [.mode, .timeout] := by
  unfold settingsProblems
  split
  · exact List.nil_sublist _
  · rename_i q hq
    rcases (validation_eq_error_iff.1 hq).2 with hmode | ⟨htimeout, -⟩
    · simp [hmode]
    · simp [htimeout]

/-- The problems come in the order of the rules, at most one for each rule. -/
theorem map_rule_problems (m : Metadata) : (m.problems.map Problem.rule).Sublist Rule.all := by
  have hname : (m.nameProblems.map Problem.rule).Sublist [.name] := by
    unfold nameProblems
    dsimp only
    split
    · exact List.Sublist.refl _
    · split
      · exact List.Sublist.refl _
      · exact List.nil_sublist _
  -- The other sections either have their problem or nothing.
  have hsection : ∀ (c : Prop) [Decidable c] (q : Problem),
      ((if c then [] else [q]).map Problem.rule).Sublist [q.rule] ∧
        ((if c then [q] else []).map Problem.rule).Sublist [q.rule] := by
    intro c _ q
    by_cases hc : c
    · simp [hc]
    · simp [hc]
  rw [problems_eq, List.map_append, List.map_append, List.map_append, List.map_append]
  exact (((hname.append (hsection _ _).1).append (hsection _ .emptyTitle).2).append
    (hsection _ .emptyFirstHint).2).append (map_rule_settingsProblems m)

/-- Which rules are reported. -/
theorem mem_map_rule_iff {rule : Rule} : rule ∈ m.problems.map Problem.rule ↔
    ¬ rule.Met m ∧ (rule = .timeout → Rule.mode.Met m) := by
  constructor
  · intro h
    obtain ⟨p, hp, rfl⟩ := List.mem_map.1 h
    obtain ⟨hbreaks, hmode⟩ := mem_problems_iff.1 hp
    exact ⟨hbreaks.not_met, hmode⟩
  · rintro ⟨hno, hmode⟩
    obtain ⟨p, hbreaks, rfl⟩ := not_met_iff.1 hno
    exact List.mem_map_of_mem (mem_problems_iff.2 ⟨hbreaks, hmode⟩)

/-- Nothing is told of a document that keeps all rules, and of no other one. -/
theorem problems_eq_nil_iff : m.problems = [] ↔ ∀ rule : Rule, rule.Met m := by
  constructor
  · intro h
    have hreported : ∀ rule : Rule, (rule = .timeout → Rule.mode.Met m) → rule.Met m := by
      intro rule hmode
      by_contra hno
      have hmem : rule ∈ m.problems.map Problem.rule := mem_map_rule_iff.2 ⟨hno, hmode⟩
      rw [h] at hmem
      cases hmem
    -- A bad mode hides a bad time limit, but it does not hide itself.
    have hmode : Rule.mode.Met m := hreported .mode (by simp)
    exact fun rule => hreported rule fun _ => hmode
  · intro h
    rw [List.eq_nil_iff_forall_not_mem]
    intro p hp
    exact (mem_problems_iff.1 hp).1.not_met (h p.rule)

/-! ## Reading a document -/

variable {content : String} {path : Path}

/-- What parsing comes to is decided by the problems alone. -/
theorem parse_of_decode (h : Toml.decode decode content = some m) (path : Path) :
    parse content path =
      if m.problems = [] then .ok m else .error (.invalid path m.problems) := by
  simp only [parse, h, List.isEmpty_iff]

/-- A document is accepted exactly when it decodes and keeps all rules. -/
theorem parse_eq_ok_iff : parse content path = .ok m ↔
    Toml.decode decode content = some m ∧ ∀ rule : Rule, rule.Met m := by
  rw [← problems_eq_nil_iff]
  constructor
  · intro h
    cases hdecode : Toml.decode decode content with
    | none =>
        rw [parse, hdecode] at h
        cases h
    | some m' =>
        rw [parse_of_decode hdecode] at h
        split at h
        · rename_i hnone
          cases h
          exact ⟨rfl, hnone⟩
        · cases h
  · rintro ⟨hdecode, hnone⟩
    rw [parse_of_decode hdecode, if_pos hnone]

/--
What is reported of a document of the right form: true problems, one for each rule that is broken,
and none for a rule that is kept.  Only the rule about time limits has to wait until the mode is
good.  Time limits of more seconds than fit in 64 bits are left aside (`Duration.TimeUnit.times`).
-/
theorem problems_reported (h : Toml.decode decode content = some m) (path : Path) :
    ∃ problems, parse content path =
        (if problems = [] then .ok m else .error (.invalid path problems)) ∧
      (Failure.invalid path problems).message =
        path.text ++ ": " ++ Text.join "; " (problems.map Problem.message) ∧
      (∀ p ∈ problems, m.Breaks p ∧ p.rule.field.toList <:+: p.message.toList) ∧
      (problems.map Problem.rule).Nodup ∧
      ∀ rule, rule ∈ problems.map Problem.rule ↔
        ¬ rule.Met m ∧ (rule = .timeout → Rule.mode.Met m) := by
  refine ⟨m.problems, parse_of_decode h path, rfl, fun p hp => ?_, ?_, fun rule => ?_⟩
  · exact ⟨(mem_problems_iff.1 hp).1, p.field_infix_message⟩
  · exact (map_rule_problems m).nodup (by decide)
  · exact mem_map_rule_iff

/-- A document with a mode that there is not, and no time to run. -/
def benchText : String :=
  "[exercise]\nname = \"a\"\n\n[description]\ntitle = \"T\"\n\n" ++
    "[validation]\nmode = \"bench\"\ntimeout = 0\n\n[hints]\nlevel_1 = \"h\"\n"

def bench : Metadata where
  name := "a"
  category := none
  difficulty := 1
  estimatedTime := none
  toolchainVersion := none
  title := "T"
  summary := ""
  objectives := []
  mode := "bench"
  timeout := some (.seconds 0)
  expectedOutput := none
  staticCheckId := none
  requiredFiles := []
  hints := ⟨"h", none, none⟩

theorem decode_bench : Toml.decode decode benchText = some bench := by
  decide +kernel

theorem problems_reported_bench : Toml.decode decode benchText = some bench ∧
    ∃ problems, parse benchText ⟨"p.toml"⟩ =
        (if problems = [] then .ok bench else .error (.invalid ⟨"p.toml"⟩ problems)) ∧
      (problems.map Problem.rule).Nodup ∧
      ∀ rule, rule ∈ problems.map Problem.rule ↔
        ¬ rule.Met bench ∧ (rule = .timeout → Rule.mode.Met bench) := by
  obtain ⟨problems, hparse, -, -, hnodup, hrules⟩ := problems_reported decode_bench ⟨"p.toml"⟩
  exact ⟨decode_bench, problems, hparse, hnodup, hrules⟩

/-- Two rules are broken, and one of them is reported. -/
theorem timeout_not_reported :
    ¬ Rule.mode.Met bench ∧ ¬ Rule.timeout.Met bench ∧
      Toml.decode decode benchText = some bench ∧
      parse benchText ⟨"p.toml"⟩ =
        .error (.invalid ⟨"p.toml"⟩ [.badMode (.unknown "bench")]) := by
  have hmode : bench.Breaks (.badMode (.unknown "bench")) := .unknownMode (by decide)
  have htimeout : bench.Breaks .zeroTimeout := .zeroTimeout rfl (.seconds 0) rfl
  exact ⟨hmode.not_met, htimeout.not_met, decode_bench, by decide +kernel⟩

end Metadata
end Trainer
