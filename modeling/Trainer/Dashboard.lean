import Trainer.Screen
import Trainer.Session

/-!
# The dashboard

What a session looks like: a header with the overall progress, the body of the view, and a line
with status and keys.  The contents of each part are given as lines and table rows; `draw` lays
them out on a screen.
-/

namespace Trainer
namespace Dashboard

def logo : String :=
  " _         _\n| | ____ _| |_ __ _\n| |/ / _\x60 | __/ _\x60 |\n|   < (_| | || (_| |"

/-! ## Header -/

def spinnerChars : List Char := ['⠋', '⠙', '⠹', '⠸', '⠼', '⠴', '⠦', '⠧', '⠇', '⠏']

def spinnerAt (n : Nat) : String :=
  String.singleton (spinnerChars.getD (n % spinnerChars.length) ' ')

def barWidth : Nat := 20

/-- How many cells of the bar are filled: the completed share, a half counting as a whole. -/
def barFilled (s : ProgressStats) : Nat :=
  min barWidth
    (((s.percentage.div (Binary64.ofNat 100)).mul (Binary64.ofNat barWidth)).roundHalfUp)

def bar (s : ProgressStats) : String :=
  "[" ++ Text.times (barFilled s) "█" ++ Text.times (barWidth - barFilled s) "░" ++ "]"

def share (s : ProgressStats) : String :=
  toString s.completed ++ "/" ++ toString s.total ++ " (" ++ s.rounded ++ "%)"

/-- The line under the logo. -/
def progressLine (s : Session) : Line :=
  let stats := s.catalog.stats
  let indicator := if s.running.isSome then spinnerAt s.spinner else " "
  [⟨"   " ++ indicator ++ " ", Style.running⟩, ⟨share stats, Style.passed⟩, Span.plain " ",
    ⟨bar stats, Style.passed⟩]

def header (s : Session) : List Line :=
  (Text.lines logo).map (fun l => Line.of l Style.header) ++ [progressLine s]

/-! ## Panels -/

/-- A box with lines. -/
structure Panel where
  title : String
  lines : List Line
  /-- Whether blanks at the start of a row are dropped. -/
  trim : Bool
deriving DecidableEq, Repr, Inhabited

def welcome (s : Session) : Panel :=
  let e := s.currentExercise
  { title := " Welcome "
    trim := false
    lines := [
      Line.of "Welcome to kata!" Style.header, [],
      Line.plain "Open the exercise file in your editor. Every time you save it,",
      Line.plain "kata builds and checks it and shows the result here.", [],
      [Span.plain "Starting with ", ⟨e.name, Style.key⟩, Span.plain (" (" ++ e.title ++ ")")],
      Line.of e.sourcePath.text Style.dimmed, [],
      [Span.plain "Press ", ⟨"Enter", Style.key⟩, Span.plain " to begin."]] }

def stars (difficulty : Nat) : String :=
  Text.times (min difficulty 5) "★" ++ Text.times (5 - min difficulty 5) "☆"

def completionSpan (e : Exercise) : Span :=
  if e.completed then ⟨"✓ completed", Style.passed⟩ else ⟨"○ in progress", Style.pending⟩

def details (s : Session) : Panel :=
  let e := s.currentExercise
  { title :=
      " " ++ e.name ++ " (" ++ toString (s.current + 1) ++ "/" ++ toString s.catalog.size ++ ") "
    trim := true
    lines :=
      [Line.of e.title Style.header,
        [completionSpan e,
          ⟨"  │ " ++ e.category ++ "  │ " ++ stars e.difficulty ++ "  │ mode: " ++
            e.validation.mode.label ++ "  │ attempts: " ++ toString e.attempts, Style.dimmed⟩],
        Line.of e.sourcePath.text Style.dimmed] ++
      (if e.summary = "" then [] else [Line.plain e.summary]) }

inductive ResultView where
  /-- The current exercise is being run. -/
  | checking (name : String)
  | verdict (v : Verdict)
  | notChecked
deriving DecidableEq, Repr

def resultView (s : Session) : ResultView :=
  let e := s.currentExercise
  if s.running = some e.name then .checking e.name
  else
    match s.lastVerdict with
    | some v => .verdict v
    | none => .notChecked

def verdictLines (v : Verdict) : List Line :=
  [if v.success then ⟨"PASSED", Style.passed⟩ else ⟨"FAILED", Style.failed⟩,
    ⟨"  in " ++ v.duration.render, Style.dimmed⟩] :: [] ::
    (Text.lines v.feedback).map Line.plain

def resultLines (s : Session) : List Line :=
  match resultView s with
  | .checking name =>
      [Line.of (spinnerAt s.spinner ++ " Checking " ++ name ++ "...") Style.running]
  | .verdict v => verdictLines v
  | .notChecked => [Line.of "Not checked yet. Save the file or press r." Style.dimmed]

def result (s : Session) : Panel :=
  ⟨" Result ", resultLines s, false⟩

def objectiveLines (e : Exercise) : List Line :=
  if e.objectives.isEmpty then []
  else [] :: Line.of "Objectives" Style.header :: e.objectives.map fun o => Line.plain ("  • " ++ o)

def hint (s : Session) : Panel :=
  let e := s.currentExercise
  { title := " Hint (level " ++ toString e.hintLevel ++ ") "
    trim := false
    lines :=
      (Text.lines e.hint).map Line.plain ++ objectiveLines e ++
        [[], Line.of "More detailed hints unlock as your attempts add up." Style.dimmed] }

/-! ## The list -/

def icon (e : Exercise) : String :=
  if e.completed then "✓" else "○"

def rowStyle (s : Session) (i : Nat) (e : Exercise) : Style :=
  if i = s.cursor then Style.selected
  else if i = s.current then Style.header
  else if e.completed then Style.passed
  else Style.pending

def listRow (s : Session) (i : Nat) (e : Exercise) : Screen.TableRow :=
  ⟨[icon e, toString (i + 1), e.name, e.category, e.validation.mode.label], rowStyle s i e⟩

/-- How many exercises above the first row are left out in a body of a height. -/
def listOffset (s : Session) (height : Nat) : Nat :=
  s.cursor - (height - 4 - 1)

/-- The rows of the list from its first shown exercise on. -/
def listRows (s : Session) (height : Nat) : List Screen.TableRow :=
  (s.catalog.exercises.zipIdx.drop (listOffset s height)).map fun x => listRow s x.2 x.1

def listHead : Screen.TableRow :=
  ⟨["", "#", "Name", "Category", "Mode"], Style.header⟩

def listTitle (s : Session) : Line :=
  Line.of (" Exercises (" ++ toString s.catalog.size ++ ") ") Style.header

/--
The widths of the columns in a width: the third takes what the others and the blanks between them
leave.  It is to be 16 wide at least, so these are the columns from a width of 54 on; what becomes
of the other columns in a narrower list is left open.
-/
def listColumns (width : Nat) : List Nat :=
  [2, 4, width - 38, 20, 8]

/-! ## Footer -/

/-- The style of a status, by its first character. -/
def statusStyle (status : String) : Style :=
  if status.toList.head? = some '✓' then Style.passed
  else if status.toList.head? = some '✗' then Style.failed
  else Style.plain

def keySpans : List (String × String) → Line
  | [] => []
  | [(key, label)] => [⟨key, Style.key⟩, Span.plain (" " ++ label)]
  | (key, label) :: rest =>
      [⟨key, Style.key⟩, Span.plain (" " ++ label), Span.plain " "] ++ keySpans rest

/-- The last line. -/
def footer (s : Session) : Line :=
  (match s.watchError with
    | some error => [⟨"⚠ watcher: " ++ error, Style.warning⟩, Span.plain " │ "]
    | none => []) ++
  (match s.status with
    | some status => [⟨status, statusStyle status⟩, Span.plain " │ "]
    | none => []) ++
  keySpans keyHints

/-! ## Layout -/

def headerHeight : Nat := 5

def detailsHeight : Nat := 7

def Panel.draw (p : Panel) (width height : Nat) : Screen :=
  Screen.boxed width (Line.plain p.title)
    (Screen.wrappedLines p.trim (width - 2) (height - 2) p.lines)

def drawList (s : Session) (width height : Nat) : Screen :=
  Screen.boxed width (listTitle s)
    (Screen.table (width - 2) (height - 2) (listColumns (width - 2)) listHead (listRows s height))

def drawBody (s : Session) (width height : Nat) : Screen :=
  match s.view with
  | .welcome => (welcome s).draw width height
  | .main =>
      let upper := min detailsHeight (height - 3)
      (details s).draw width upper ++ (result s).draw width (height - upper)
  | .list => drawList s width height
  | .hint => (hint s).draw width height

def draw (s : Session) (width height : Nat) : Screen :=
  Screen.cutLines width headerHeight (header s) ++
    drawBody s width (height - headerHeight - 1) ++ Screen.cutLines width 1 [footer s]

end Dashboard
end Trainer
