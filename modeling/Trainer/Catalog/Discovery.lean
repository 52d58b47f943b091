import Trainer.Catalog
import Trainer.Config

/-!
# Discovery

A catalog is made from the metadata files below the exercises directory, in the order of their
paths.  Loading is all or nothing: one file that cannot be used refuses the whole catalog, with one
entry for each such file.
-/

namespace Trainer

/-- Where exercises, solutions and progress are. -/
structure CatalogPaths where
  exercisesDir : Path
  solutionsDir : Path
  progressFile : Path
  sourceExtension : String
  /-- The file that the toolchain creates; it is never read as metadata. -/
  scaffoldFile : Option String
deriving DecidableEq, Repr

def CatalogPaths.ofConfig (c : Config) : CatalogPaths where
  exercisesDir := c.exercisesPath
  solutionsDir := c.solutionsPath
  progressFile := c.progressPath
  sourceExtension := c.toolchain.sourceExtension
  scaffoldFile := c.toolchain.scaffold.map (·.file)

namespace Catalog

/-! ## Failures -/

inductive EntryFailure where
  | metadata (cause : Metadata.Failure)
  | missingSource (file source : Path)
  | duplicateName (file : Path) (name : String)
deriving DecidableEq, Repr

def EntryFailure.message : EntryFailure → String
  | .metadata cause => cause.message
  | .missingSource file source => file.text ++ ": missing source file " ++ source.text
  | .duplicateName file name => file.text ++ ": duplicate exercise name '" ++ name ++ "'"

inductive LoadFailure where
  | missingDirectory (path : Path)
  | unresolved (path : Path) (cause : IoError)
  | empty (path : Path)
  | invalid (entries : List EntryFailure)
  | progress (cause : Progress.LoadFailure)
deriving DecidableEq, Repr

def LoadFailure.messageWith (entryMessage : EntryFailure → String) : LoadFailure → String
  | .missingDirectory path => "exercises directory not found: " ++ path.text
  | .unresolved path cause =>
      "Failed to resolve exercises directory: " ++ path.text ++ ": " ++ cause.message
  | .empty path => "no exercise metadata (*.toml) found under " ++ path.text
  | .invalid entries =>
      "failed to load " ++ toString entries.length ++ " exercise(s):\n  - " ++
        Text.join "\n  - " (entries.map entryMessage)
  | .progress cause => cause.message

def LoadFailure.message (f : LoadFailure) : String :=
  f.messageWith EntryFailure.message

/-! ## Loading -/

/-- Whether a file is exercise metadata: by its ending, unless it is the toolchain's own file. -/
def isMetadata (scaffoldFile : Option String) (p : Path) : Bool :=
  match p.fileName? with
  | none => false
  | some name =>
      Text.endsWith ".toml" name &&
        (scaffoldFile.bind fun f => Path.fileName? ⟨f⟩) != some name

/-- The metadata files among some files, in the order of paths. -/
def metadataFiles (scaffoldFile : Option String) (files : List Path) : List Path :=
  (files.filter (isMetadata scaffoldFile)).mergeSort Path.le

/-- The exercise that a metadata file and its source make up. -/
def exerciseOf (root : Path) (paths : CatalogPaths) (metadataPath : Path) (m : Metadata)
    (v : Validation) : Exercise :=
  let dir := metadataPath.parent?.getD root
  let stem := metadataPath.stem?.getD m.name
  let sourceFile := stem ++ "." ++ paths.sourceExtension
  let relative := ((root.below? dir).getD [])
  { name := Text.trim m.name
    category := m.category.getD ((relative.head?.map Component.text).getD "")
    difficulty := m.difficulty
    estimatedTime := m.estimatedTime
    toolchainVersion := m.toolchainVersion
    sourcePath := dir.join sourceFile
    solutionPath := (paths.solutionsDir.join (Path.ofComponents relative).text).join sourceFile
    metadataPath := metadataPath
    title := m.title
    summary := m.summary
    objectives := m.objectives
    hints := m.hints
    validation := v
    completed := false
    attempts := 0
    lastAttempt := none }

variable {σ : Type}

/-- Reads one metadata file and looks for its source. -/
def loadEntry (host : Host σ) (root : Path) (paths : CatalogPaths) (s : σ) (p : Path) :
    Except EntryFailure Exercise :=
  match host.readText p s with
  | .error cause => .error (.metadata (.unreadable p cause))
  | .ok content =>
      match Metadata.parse content p with
      | .error cause => .error (.metadata cause)
      | .ok m =>
          match m.validation with
          | .error problem => .error (.metadata (.invalid p [problem]))
          | .ok v =>
              let e := exerciseOf root paths p m v
              if host.isFile e.sourcePath s then .ok e
              else .error (.missingSource p e.sourcePath)

/-- Loads the files one after the other; a name that was taken before is refused. -/
def loadEntries (load : Path → Except EntryFailure Exercise) :
    List Exercise → List Path → List Exercise × List EntryFailure
  | taken, [] => (taken, [])
  | taken, p :: rest =>
      match load p with
      | .error f =>
          let (exercises, failures) := loadEntries load taken rest
          (exercises, f :: failures)
      | .ok e =>
          if taken.any fun other => other.name == e.name then
            let (exercises, failures) := loadEntries load taken rest
            (exercises, .duplicateName p e.name :: failures)
          else loadEntries load (taken ++ [e]) rest

def load (host : Host σ) (paths : CatalogPaths) (s : σ) : Except LoadFailure Catalog :=
  if !host.isDirectory paths.exercisesDir s then .error (.missingDirectory paths.exercisesDir)
  else
    match host.canonical paths.exercisesDir s with
    | .error cause => .error (.unresolved paths.exercisesDir cause)
    | .ok root =>
        let files := metadataFiles paths.scaffoldFile (host.filesBelow root s)
        if files.isEmpty then .error (.empty root)
        else
          let (exercises, failures) := loadEntries (loadEntry host root paths s) [] files
          if !failures.isEmpty then .error (.invalid failures)
          else
            match Progress.load host paths.progressFile s with
            | .error cause => .error (.progress cause)
            | .ok progress =>
                .ok {
                  exercises := exercises.map fun e =>
                    { e with completed := progress.isCompleted e.name }
                  progress
                  progressFile := paths.progressFile }

end Catalog
end Trainer
