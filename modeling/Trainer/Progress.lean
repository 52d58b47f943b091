import Trainer.Host
import Trainer.Toml.Decode

/-!
# Progress

What a learner has done, and its stored form.  `Progress.render` writes the document that
`Progress.parse?` reads back; `Progress.save` replaces the stored file as a whole, by writing a
file beside it and renaming that one (`Progress.saveSteps`).
-/

namespace Trainer

/-- Which exercise the learner is at, and which are completed. -/
structure Progress where
  currentExercise : Option String
  lastUpdated : Option Timestamp
  /-- Names with their completion, in increasing order of names. -/
  exercises : List (String × Bool)
deriving DecidableEq, Repr, Inhabited

namespace Progress

/-- A fresh start. -/
def fresh : Progress := ⟨none, none, []⟩

/-! ## The record of names -/

/-- Sets the value of a name in an ordered list. -/
def insert (name : String) (done : Bool) : List (String × Bool) → List (String × Bool)
  | [] => [(name, done)]
  | (n, d) :: rest =>
      if name = n then (name, done) :: rest
      else if name < n then (name, done) :: (n, d) :: rest
      else (n, d) :: insert name done rest

def isCompleted (p : Progress) (name : String) : Bool :=
  (p.exercises.lookup name).getD false

/-- Records a name as completed, at a time; nothing changes if it already was. -/
def setCompleted (p : Progress) (name : String) (now : Timestamp) : Progress :=
  if p.isCompleted name then p
  else { p with exercises := insert name true p.exercises, lastUpdated := some now }

/-- Moves the pointer to an exercise, at a time; nothing changes if it is there. -/
def setCurrent (p : Progress) (name : String) (now : Timestamp) : Progress :=
  if p.currentExercise = some name then p
  else { p with currentExercise := some name, lastUpdated := some now }

/-! ## The stored form -/

/-- Reads a time written as a string. -/
def asTimestamp : Toml.Decoder Timestamp
  | .string s => Timestamp.parse? s
  | _ => none

def decode (fs : Toml.Fields) : Option Progress := do
  let currentExercise ← fs.optional 0 ["current_exercise"] Toml.asString
  let lastUpdated ← fs.optional 1 ["last_updated"] asTimestamp
  let entries ← fs.withDefault 2 "exercises" [] (Toml.asEntries Toml.asBool)
  return {
    currentExercise, lastUpdated,
    exercises := entries.foldl (fun acc x => insert x.1 x.2 acc) [] }

def parse? (content : String) : Option Progress :=
  Toml.decode decode content

def textLine (key value : List Char) : List Char :=
  key ++ [' ', '=', ' '] ++ Toml.writeString value ++ ['\n']

def entryLine (x : String × Bool) : List Char :=
  Toml.writeKey x.1.toList ++ [' ', '=', ' '] ++
    (if x.2 then ['t', 'r', 'u', 'e'] else ['f', 'a', 'l', 's', 'e']) ++ ['\n']

/-- The lines before the table of names. -/
def headLines (p : Progress) : List Char :=
  (match p.currentExercise with
    | some name => textLine "current_exercise".toList name.toList
    | none => []) ++
  (match p.lastUpdated with
    | some t => textLine "last_updated".toList t.render.toList
    | none => [])

def renderChars (p : Progress) : List Char :=
  p.headLines ++ (if p.headLines.isEmpty then [] else ['\n']) ++ "[exercises]\n".toList ++
    p.exercises.flatMap entryLine

def render (p : Progress) : String :=
  String.ofList p.renderChars

/-! ## Loading -/

/-- Why stored progress cannot be used. -/
inductive LoadFailure where
  | unreadable (path : Path) (cause : IoError)
  | malformed (path : Path)
deriving DecidableEq, Repr

/-- The wording of a failure, without the details of a document's malformation. -/
def LoadFailure.message : LoadFailure → String
  | .unreadable path cause =>
      "Failed to read progress file: " ++ path.text ++ ": " ++ cause.message
  | .malformed path => "Failed to parse progress file: " ++ path.text

/-- Reads stored progress; a missing file means a fresh start. -/
def load {σ : Type} (host : Host σ) (path : Path) (s : σ) : Except LoadFailure Progress :=
  if host.exists? path s then
    match host.readText path s with
    | .error cause => .error (.unreadable path cause)
    | .ok content =>
        match parse? content with
        | some p => .ok p
        | none => .error (.malformed path)
  else .ok fresh

/-! ## Saving -/

inductive SaveStep where
  | makeDirs (path : Path)
  | write (path : Path) (text : String)
  | replace (source target : Path)
deriving DecidableEq, Repr

/-- The step that failed, and why. -/
inductive SaveFailure where
  | noParent (path : Path) (cause : IoError)
  | unwritten (path : Path) (cause : IoError)
  | unreplaced (path : Path) (cause : IoError)
deriving DecidableEq, Repr

def SaveFailure.message : SaveFailure → String
  | .noParent path cause => "Failed to create " ++ path.text ++ ": " ++ cause.message
  | .unwritten path cause => "Failed to write " ++ path.text ++ ": " ++ cause.message
  | .unreplaced path cause => "Failed to replace " ++ path.text ++ ": " ++ cause.message

/-- The file that is written first. -/
def sidePath (path : Path) : Path :=
  path.withExtension "toml.tmp"

def saveSteps (p : Progress) (path : Path) : List SaveStep :=
  (path.parent?.map SaveStep.makeDirs).toList ++
    -- The side file is complete before it takes the place of the stored one.
    [.write (sidePath path) p.render, .replace (sidePath path) path]

def SaveStep.run {σ : Type} (host : Host σ) : SaveStep → Act σ SaveFailure Unit
  | .makeDirs path => (host.makeDirs path).orElseFail (.noParent path)
  | .write path text => (host.writeText path text).orElseFail (.unwritten path)
  | .replace source target => (host.rename source target).orElseFail (.unreplaced target)

/-- Performs steps until one fails. -/
def runSteps {σ : Type} (host : Host σ) : List SaveStep → Act σ SaveFailure Unit
  | [] => pure ()
  | step :: rest => do
      step.run host
      runSteps host rest

def save {σ : Type} (host : Host σ) (path : Path) (p : Progress) : Act σ SaveFailure Unit :=
  runSteps host (p.saveSteps path)

end Progress

/-! ## Where progress is kept -/

/-- A clock, and a place to keep progress in. -/
structure ProgressStore (σ : Type) where
  now : σ → Timestamp
  save : Progress → Act σ Progress.SaveFailure Unit

/-- The store that keeps progress in a file. -/
def Host.progressStore {σ : Type} (host : Host σ) (path : Path) : ProgressStore σ where
  now := host.now
  save := Progress.save host path

end Trainer
