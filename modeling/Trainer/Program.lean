import Trainer.Catalog.Discovery
import Trainer.Program.Arguments
import Trainer.Runner
import Trainer.SessionLock

/-!
# The program

What the program prints and how it ends, for the words of its command line.  A request ends with an
exit code or, when the learner wants to watch, with an open workspace from which a session starts.

A command that stores progress holds the session lock from before it reads the stored progress
until it is over.
-/

namespace Trainer

/-! ## Printing -/

inductive Channel where
  | out
  | error
deriving DecidableEq, Repr

/-- What was printed, in order. -/
abbrev Printed := List (Channel × String)

def Printed.on (p : Printed) (c : Channel) : String :=
  String.join ((p.filter fun x => x.1 == c).map (·.2))

def Printed.all (p : Printed) : String :=
  String.join (p.map (·.2))

/-- Text with or without the codes of a terminal. -/
structure Paint where
  colored : Bool
deriving DecidableEq, Repr

namespace Paint

/-- Whether a setting of the environment says yes. -/
def isOn (setting : Option String) : Bool :=
  match setting with
  | some value => value != "0"
  | none => false

/-- The choice of the environment: codes may be forced or refused, else a terminal gets them. -/
def ofEnvironment (force refuse usual : Option String) (isTerminal : Bool) : Paint :=
  if isOn force then ⟨true⟩
  else if refuse.isSome then ⟨false⟩
  else ⟨(usual.isNone || isOn usual) && isTerminal⟩

def reset : String := "\x1b[0m"

/-- A text between codes; a reset within it does not end them. -/
def with_ (p : Paint) (codes s : String) : String :=
  if p.colored then
    let start := "\x1b[" ++ codes ++ "m"
    start ++ Text.replaceAll reset (reset ++ start) s ++ reset
  else s

def bold (p : Paint) (s : String) : String := p.with_ "1" s

def dim (p : Paint) (s : String) : String := p.with_ "2" s

def red (p : Paint) (s : String) : String := p.with_ "31" s

def green (p : Paint) (s : String) : String := p.with_ "32" s

def cyan (p : Paint) (s : String) : String := p.with_ "36" s

def boldRed (p : Paint) (s : String) : String := p.with_ "1;31" s

def boldGreen (p : Paint) (s : String) : String := p.with_ "1;32" s

def boldYellow (p : Paint) (s : String) : String := p.with_ "1;33" s

def boldCyan (p : Paint) (s : String) : String := p.with_ "1;36" s

end Paint

/-- A line on the usual channel. -/
def say (s : String) : Printed := [(.out, s ++ "\n")]

/-- A line on the channel for complaints. -/
def complain (s : String) : Printed := [(.error, s ++ "\n")]

namespace Program

/-! ## Failures -/

/-- What opens the details about a malformed document. -/
def documentComplaint : String := "TOML parse error"

/-- What opens the details about a pattern that cannot be used. -/
def patternComplaint : Pattern.Fault → String
  | .malformed => "regex parse error"
  | .tooLarge =>
      "Compiled regex exceeds size limit of " ++ toString Pattern.sizeLimit ++ " bytes."

def configText (f : Config.Failure) : String :=
  match f with
  | .malformed _ => f.message ++ ": " ++ documentComplaint
  | f => f.message

def checksText (f : CheckTable.Failure) : String :=
  let text := "Invalid [[static_checks]] in kata.toml: " ++ f.message
  match f with
  | .badEntry _ _ fault => text ++ ": " ++ patternComplaint fault
  | .badPattern _ fault => text ++ ": " ++ patternComplaint fault
  | _ => text

def entryText (f : Catalog.EntryFailure) : String :=
  match f with
  | .metadata (.malformed _) => f.message ++ ": " ++ documentComplaint
  | f => f.message

def catalogText (f : Catalog.LoadFailure) : String :=
  match f with
  | .progress (.malformed _) => f.message ++ ": " ++ documentComplaint
  | f => f.messageWith entryText

/-! ## Workspaces -/

variable {σ : Type}

/-- A project that is ready for a command. -/
structure Workspace where
  config : Config
  catalog : Catalog
  runner : Runner
deriving DecidableEq, Repr, Inhabited

namespace Workspace

def load (host : Host σ) (config : Config) (s : σ) : Except String Workspace :=
  match CheckTable.ofEntries config.staticChecks with
  | .error f => .error (checksText f)
  | .ok checks =>
      match Catalog.load host (CatalogPaths.ofConfig config) s with
      | .error f => .error (catalogText f)
      | .ok catalog => .ok ⟨config, catalog, Runner.ofConfig config checks⟩

/-- The exercise of a name, or the one where the learner goes on. -/
def select (w : Workspace) (name : Option String) : Except String Exercise :=
  match name with
  | some n =>
      match w.catalog.find? n with
      | some e => .ok e
      | none => .error (Catalog.Failure.notFound n).message
  | none =>
      match w.catalog.exercises[w.catalog.resumePosition]? with
      | some e => .ok e
      | none => .error "No exercises loaded"

end Workspace

/-! ## Endings -/

inductive Ending where
  | exit (code : Nat)
  /-- A session is to start; the lock is held until it is over. -/
  | watch (workspace : Workspace) (lock : SessionLock)
deriving DecidableEq, Repr

/-- A step of the program: what it prints, how it ends, and the state after it. -/
abbrev Step (σ : Type) := σ → (Printed × Ending) × σ

/-- The complaint with which the program gives up. -/
def giveUp (paint : Paint) (text : String) : Printed × Ending :=
  (complain (paint.boldRed "error:" ++ " " ++ text), .exit 1)

/-- Holds the session lock while a step runs; a session that starts keeps it. -/
def locked (host : Host σ) (paint : Paint) (config : Config)
    (step : SessionLock → Step σ) : Step σ := fun s =>
  match SessionLock.acquire host config.lockPath s with
  | (.error f, s) => (giveUp paint f.message, s)
  | (.ok lock, s) =>
      match step lock s with
      | ((printed, .exit code), s) => ((printed, .exit code), SessionLock.release host lock s)
      -- A session that starts gives the lock back only when it is over.
      | ((printed, .watch w l), s) => ((printed, .watch w l), s)

/-- The complaint about a toolchain that cannot be found. -/
def toolchainWarning (host : Host σ) (paint : Paint) (config : Config) (s : σ) : Printed :=
  match config.toolchain.checkAvailable fun name => host.findsProgram name s with
  | .ok () => []
  | .error u => complain (paint.boldYellow "⚠" ++ " " ++ u.message)

def share (stats : ProgressStats) (what : String) : String :=
  toString stats.completed ++ "/" ++ toString stats.total ++ " " ++ what ++ "completed (" ++
    stats.rounded ++ "%)"

/-! ## Running one exercise -/

def phaseLine (paint : Paint) (r : PhaseReport) : String :=
  "  " ++ (if r.success then paint.green "✓" else paint.red "✗") ++ " " ++ r.phase.label ++
    " (" ++ paint.dim r.duration.render ++ ")"

def verdictReport (paint : Paint) (v : Verdict) : Printed :=
  v.phases.flatMap (fun r => say (phaseLine paint r)) ++
  (if Text.isBlank v.feedback then []
    else say "" ++ (Text.lines v.feedback).flatMap fun line => say ("  " ++ line)) ++
  say "" ++
  say ((if v.success then paint.boldGreen "✓" else paint.boldRed "✗") ++ " " ++ v.summary)

def outlook (paint : Paint) (catalog : Catalog) : Printed :=
  match catalog.nextIncomplete with
  | some e => say ("\n" ++ paint.boldCyan "→" ++ " Next up: " ++ e.name)
  | none => say ("\n" ++ paint.boldGreen "✓" ++ " All exercises completed!")

/-- Runs one exercise of a workspace, and stores a success. -/
def runOne (host : Host σ) (paint : Paint) (w : Workspace) (e : Exercise) : Step σ := fun s =>
  let heading :=
    say (paint.boldCyan "→" ++ " Checking '" ++ e.name ++ "' (" ++ e.validation.mode.label ++
      ")...\n")
  let (v, s) := w.runner.validate host e s
  let printed := heading ++ verdictReport paint v
  let store := host.progressStore w.catalog.progressFile
  match Catalog.recordAttempt store e.name v.success (w.catalog, s) with
  | (.error f, (_, s)) =>
      let (complaint, ending) := giveUp paint f.message
      ((printed ++ complaint, ending), s)
  | (.ok _, (catalog, s)) =>
      if v.success then ((printed ++ outlook paint catalog, .exit 0), s)
      else ((printed, .exit 1), s)

def run (host : Host σ) (paint : Paint) (config : Config) (name : Option String) : Step σ :=
  locked host paint config fun _ s =>
    let warning := toolchainWarning host paint config s
    match (Workspace.load host config s).bind fun w => (w.select name).map fun e => (w, e) with
    | .error text =>
        let (complaint, ending) := giveUp paint text
        ((warning ++ complaint, ending), s)
    | .ok (w, e) =>
        let ((printed, ending), s) := runOne host paint w e s
        ((warning ++ printed, ending), s)

/-! ## Watching -/

def watch (host : Host σ) (paint : Paint) (config : Config) : Step σ :=
  locked host paint config fun lock s =>
    let warning := toolchainWarning host paint config s
    match Workspace.load host config s with
    | .error text =>
        let (complaint, ending) := giveUp paint text
        ((warning ++ complaint, ending), s)
    | .ok w => ((warning, .watch w lock), s)

/-- What is printed when a session is over. -/
def farewell (paint : Paint) (stats : ProgressStats) : Printed :=
  say (paint.boldCyan "→" ++ " " ++ share stats "exercises ") ++
  (if 0 < stats.total ∧ stats.completed = stats.total then
    say (paint.boldGreen "✓" ++ " Every exercise is done. Well played!")
  else [])

/-- What is printed when there is no terminal for a session. -/
def noTerminal (paint : Paint) : Printed × Ending :=
  giveUp paint "Failed to enable raw mode: No such device or address (os error 6)"

/-! ## Hints -/

def hintReport (paint : Paint) (e : Exercise) (level : Nat) : Printed :=
  say (paint.bold "💡" ++ " " ++ paint.bold e.title ++ " (" ++ paint.dim e.name ++ ")") ++
  say (paint.cyan ("Hint level " ++ toString level) ++ "\n") ++
  ((Text.lines (e.hints.atLevel level)).flatMap fun line => say ("  " ++ line)) ++
  (if e.objectives.isEmpty then []
    else
      say ("\n" ++ paint.bold "Objectives:") ++
        e.objectives.flatMap fun objective => say ("  • " ++ objective))

def hint (host : Host σ) (paint : Paint) (config : Config) (name : Option String)
    (level : Option Nat) : Step σ := fun s =>
  match level.filter fun n => n < 1 || 3 < n with
  | some n => (giveUp paint ("Hint level must be 1, 2 or 3, got " ++ toString n), s)
  | none =>
      match (Workspace.load host config s).bind fun w => w.select name with
      | .error text => (giveUp paint text, s)
      | .ok e => ((hintReport paint e (level.getD e.hintLevel), .exit 0), s)

/-! ## The list -/

def listLine (paint : Paint) (current : Bool) (e : Exercise) : String :=
  "  " ++ paint.boldCyan (if current then "→" else " ") ++ " " ++
    (if e.completed then paint.green "✓" else paint.dim "○") ++ " " ++ Text.padRight 28 e.name ++
    " " ++ paint.dim (e.validation.mode.label ++ " · " ++ e.title)

/-- The lines of exercises; a category that differs from the one before is a heading. -/
def listLines (paint : Paint) (current : Nat) : Option String → List (Exercise × Nat) → Printed
  | _, [] => []
  | category, (e, i) :: rest =>
      (if category = some e.category then [] else say ("\n" ++ paint.bold e.category)) ++
        say (listLine paint (i == current) e) ++ listLines paint current (some e.category) rest

def list (host : Host σ) (paint : Paint) (config : Config) : Step σ := fun s =>
  match Workspace.load host config s with
  | .error text => (giveUp paint text, s)
  | .ok w =>
      ((listLines paint w.catalog.resumePosition none w.catalog.exercises.zipIdx ++
        say ("\n" ++ paint.boldCyan "→" ++ " " ++ share w.catalog.stats ""), .exit 0), s)

/-! ## Requests -/

/-- Finds and reads the configuration, and makes the state directory and the log ready. -/
def prepare (host : Host σ) (root : String) : Act σ String Config := do
  let path ← (Act.ask (host.canonical ⟨root⟩)).orElseFail fun cause =>
    "Project root not found: " ++ root ++ ": " ++ cause.message
  let config ← (Act.ask (Config.load host path)).orElseFail configText
  let _ ← (config.ensureStateDir host).orElseFail Config.DirFailure.message
  (host.openLog config.logPath).orElseFail fun cause =>
    "Failed to open log file: " ++ config.logPath.text ++ ": " ++ cause.message
  return config

def execute (host : Host σ) (paint : Paint) (root : String) (command : Command) : Step σ :=
  fun s =>
    match prepare host root s with
    | (.error text, s) => (giveUp paint text, s)
    | (.ok config, s) =>
        match command with
        | .watch => watch host paint config s
        | .run name => run host paint config name s
        | .hint name level => hint host paint config name level s
        | .list => list host paint config s

def versionText : String := "kata 0.1.0"

def usageText : String :=
  "Watch-mode exercise trainer with live validation feedback\n\n" ++
  "Usage: kata [OPTIONS] [COMMAND]\n\n" ++
  "Commands:\n  watch\n  run [NAME]\n  hint [NAME] [--level LEVEL]\n  list\n  help\n\n" ++
  "Options:\n      --root <ROOT>\n  -v, --verbose\n  -h, --help\n  -V, --version"

/-- Carries out what the words of a command line ask for. -/
def start (host : Host σ) (paint : Paint) (words : List String) : Step σ := fun s =>
  match Arguments.parse words with
  | .execute root _ command => execute host paint root command s
  | .help => ((say usageText, .exit 0), s)
  | .version => ((say versionText, .exit 0), s)
  | .misuse => ((complain usageText, .exit 2), s)

end Program
end Trainer
