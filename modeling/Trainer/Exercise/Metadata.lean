import Trainer.Number
import Trainer.Exercise
import Trainer.Toml.Decode
import Trainer.IoError

/-!
# Exercise metadata

What an author writes about an exercise, in one TOML document.  `Metadata.parse` accepts a document
exactly when it decodes and breaks none of the rules in `Metadata.Problem`; all broken rules are
reported together, except that a bad mode hides a bad timeout.
-/

namespace Trainer

/-- A time limit as written: a number of seconds or a duration. -/
inductive WrittenTimeout where
  | seconds (n : Nat)
  | text (s : String)
deriving DecidableEq, Repr

namespace WrittenTimeout

def duration : WrittenTimeout → Except Duration.ParseError Duration
  | .seconds n => .ok (Duration.ofSeconds n)
  | .text s => Duration.parse s

def decode : Toml.Decoder WrittenTimeout
  | .string s => some (.text s)
  | v => (Toml.asNat (twoTo 64) v).map .seconds

end WrittenTimeout

structure Metadata where
  name : String
  category : Option String
  difficulty : Nat
  estimatedTime : Option String
  toolchainVersion : Option String
  title : String
  summary : String
  objectives : List String
  mode : String
  timeout : Option WrittenTimeout
  expectedOutput : Option String
  staticCheckId : Option String
  requiredFiles : List String
  hints : Hints
deriving DecidableEq, Repr

namespace Metadata

/-! ## The form of a document -/

def decode (fs : Toml.Fields) : Option Metadata := do
  let exercise ← fs.required 0 "exercise" Toml.asFields
  let description ← fs.required 1 "description" Toml.asFields
  let validation ← fs.required 2 "validation" Toml.asFields
  let hints ← fs.required 3 "hints" Toml.asFields
  let name ← exercise.required 0 "name" Toml.asString
  let category ← exercise.optional 1 ["category"] Toml.asString
  let difficulty ← exercise.withDefault 2 "difficulty" 1 (Toml.asNat 256)
  let estimatedTime ← exercise.optional 3 ["estimated_time"] Toml.asString
  let toolchainVersion ←
    exercise.optional 4 ["toolchain_version", "go_version"] Toml.asString
  let title ← description.required 0 "title" Toml.asString
  let summary ← description.withDefault 1 "summary" "" Toml.asString
  let objectives ←
    description.withDefault 2 "learning_objectives" [] (Toml.asList Toml.asString)
  let mode ← validation.required 0 "mode" Toml.asString
  let timeout ← validation.optional 1 ["timeout"] WrittenTimeout.decode
  let expectedOutput ← validation.optional 2 ["expected_output"] Toml.asString
  let staticCheckId ←
    validation.optional 3 ["static_check_id", "static_check"] Toml.asString
  let requiredFiles ←
    validation.withDefault 4 "required_files" [] (Toml.asList Toml.asString)
  let level1 ← hints.required 0 "level_1" Toml.asString
  let level2 ← hints.optional 1 ["level_2"] Toml.asString
  let level3 ← hints.optional 2 ["level_3"] Toml.asString
  return {
    name, category, difficulty, estimatedTime, toolchainVersion, title, summary, objectives, mode,
    timeout, expectedOutput, staticCheckId, requiredFiles, hints := ⟨level1, level2, level3⟩ }

/-! ## The rules -/

/-- A rule that a document breaks. -/
inductive Problem where
  | emptyName
  | nameWithSeparators (name : String)
  | difficultyOutOfRange (difficulty : Nat)
  | emptyTitle
  | emptyFirstHint
  | badMode (cause : ModeError)
  | badTimeout (cause : Duration.ParseError)
  | zeroTimeout
deriving DecidableEq, Repr

def Problem.message : Problem → String
  | .emptyName => "exercise.name cannot be empty"
  | .nameWithSeparators name =>
      "exercise.name '" ++ name ++ "' must not contain path separators"
  | .difficultyOutOfRange difficulty =>
      "exercise.difficulty must be between 1 and 5, got " ++ toString difficulty
  | .emptyTitle => "description.title cannot be empty"
  | .emptyFirstHint => "hints.level_1 cannot be empty"
  | .badMode cause => cause.message
  | .badTimeout cause => "validation.timeout: " ++ cause.message
  | .zeroTimeout => "validation.timeout must be greater than zero"

/-- What keeps a name from being used as a file name. -/
def hasSeparators (name : String) : Bool :=
  let cs := name.toList
  cs.contains '/' || cs.contains '\\' || Chars.occursIn ['.', '.'] cs

/-- The rule about names that this one breaks. -/
def nameProblems (m : Metadata) : List Problem :=
  let name := Text.trim m.name
  if name = "" then [.emptyName]
  else if hasSeparators name then [.nameWithSeparators name]
  else []

/-- The typed validation settings. -/
def validation (m : Metadata) : Except Problem Validation :=
  match Mode.parse m.mode m.expectedOutput m.staticCheckId with
  | .error cause => .error (.badMode cause)
  | .ok mode =>
      match m.timeout with
      | none => .ok ⟨mode, none, m.requiredFiles⟩
      | some written =>
          match written.duration with
          | .error cause => .error (.badTimeout cause)
          | .ok d =>
              if d.isZero then .error .zeroTimeout else .ok ⟨mode, some d, m.requiredFiles⟩

/-- All broken rules, in the order of the document's sections. -/
def problems (m : Metadata) : List Problem :=
  m.nameProblems ++
    (if 1 ≤ m.difficulty ∧ m.difficulty ≤ 5 then [] else [.difficultyOutOfRange m.difficulty]) ++
    (if Text.isBlank m.title then [.emptyTitle] else []) ++
    (if Text.isBlank m.hints.level1 then [.emptyFirstHint] else []) ++
    (match m.validation with
      | .ok _ => []
      | .error p => [p])

/-! ## Reading -/

inductive Failure where
  | unreadable (path : Path) (cause : IoError)
  /-- Not TOML, or not of the form of a metadata document. -/
  | malformed (path : Path)
  | invalid (path : Path) (problems : List Problem)
deriving DecidableEq, Repr

def Failure.message : Failure → String
  | .unreadable path cause => "failed to read " ++ path.text ++ ": " ++ cause.message
  | .malformed path => "invalid TOML in " ++ path.text
  | .invalid path problems =>
      path.text ++ ": " ++ Text.join "; " (problems.map Problem.message)

/-- Reads a document; the path is only for error texts. -/
def parse (content : String) (path : Path) : Except Failure Metadata :=
  match Toml.decode decode content with
  | none => .error (.malformed path)
  | some m => if m.problems.isEmpty then .ok m else .error (.invalid path m.problems)

end Metadata
end Trainer
