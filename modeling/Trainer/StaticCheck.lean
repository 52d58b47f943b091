import Trainer.Config
import Trainer.Pattern.Reading

/-!
# Rules about source text

A rule says whether a source text is as it should be.  A table of rules finds them by their ids;
ids are kept without blanks at their ends, and no two rules of a table share one.

`PatternRule.judge` sees nothing of the pattern but the place where its first match starts, so a law
about it holds of every way of matching.
-/

namespace Trainer

structure CheckOutcome where
  passed : Bool
  message : String
deriving DecidableEq, Repr, Inhabited

/-- A pattern that has to occur in the text, or that must not. -/
structure PatternRule where
  pattern : Pattern
  forbid : Bool
  /-- What to tell the learner on a failure, in place of the usual text. -/
  message : Option String
deriving DecidableEq, Repr

namespace PatternRule

/-- The number of the line that holds the place `start`: one more than the line ends before it. -/
def lineOf (content : List Char) (start : Nat) : Nat :=
  (content.take start).count '\n' + 1

/-- What is told on a failure when the rule has no text of its own. -/
def usualMessage (written : String) (content : List Char) : Option Nat → String
  | some start =>
      "forbidden pattern \x60" ++ written ++ "\x60 found on line " ++
        toString (lineOf content start)
  | none => "expected pattern \x60" ++ written ++ "\x60 not found"

/-- The verdict on a text, given where the first match starts. -/
def judge (r : PatternRule) (content : String) (found : Option Nat) : CheckOutcome :=
  if found.isSome != r.forbid then ⟨true, "static check passed"⟩
  else ⟨false, r.message.getD (usualMessage r.pattern.written content.toList found)⟩

def evaluate (r : PatternRule) (content : String) : CheckOutcome :=
  r.judge content (r.pattern.find? content)

end PatternRule

/-- A rule about a source file. -/
inductive StaticCheck where
  | pattern (rule : PatternRule)
  /-- A rule that gives the same verdict on every file. -/
  | fixed (outcome : CheckOutcome)
deriving DecidableEq, Repr

/-- Why a rule could not give a verdict. -/
structure CheckFailure where
  path : Path
  cause : IoError
deriving DecidableEq, Repr

def CheckFailure.message (f : CheckFailure) : String :=
  "Failed to read " ++ f.path.text ++ ": " ++ f.cause.message

def StaticCheck.check {σ : Type} (host : Host σ) (path : Path) (s : σ) :
    StaticCheck → Except CheckFailure CheckOutcome
  | .pattern rule =>
      match host.readText path s with
      | .ok content => .ok (rule.evaluate content)
      | .error cause => .error ⟨path, cause⟩
  | .fixed outcome => .ok outcome

/-! ## Tables of rules -/

/-- Rules by their ids, in increasing order of ids. -/
structure CheckTable where
  rules : List (String × StaticCheck)
deriving DecidableEq, Repr, Inhabited

namespace CheckTable

/-- Why a rule was not taken into a table. -/
inductive Failure where
  | emptyId
  | taken (id : String)
  | badPattern (written : String) (fault : Pattern.Fault)
  /-- A pattern of a configured rule. -/
  | badEntry (id written : String) (fault : Pattern.Fault)
deriving DecidableEq, Repr

/-- The wording of a refusal, without what is wrong with a pattern. -/
def Failure.message : Failure → String
  | .emptyId => "static check id cannot be empty"
  | .taken id => "static check '" ++ id ++ "' is already registered"
  | .badPattern written _ => "Invalid static check pattern: " ++ written
  | .badEntry id written _ =>
      "static check '" ++ id ++ "': Invalid static check pattern: " ++ written

def empty : CheckTable := ⟨[]⟩

/-- The ids in increasing order. -/
def ids (t : CheckTable) : List String :=
  t.rules.map (·.1)

def size (t : CheckTable) : Nat := t.rules.length

/-- The rule of an id, which has to be written as it is kept. -/
def get? (t : CheckTable) (id : String) : Option StaticCheck :=
  t.rules.lookup id

def contains (t : CheckTable) (id : String) : Bool :=
  (t.get? id).isSome

/-- Puts a rule at its place in the order of ids. -/
def place (id : String) (check : StaticCheck) :
    List (String × StaticCheck) → List (String × StaticCheck)
  | [] => [(id, check)]
  | (i, c) :: rest =>
      if id < i then (id, check) :: (i, c) :: rest else (i, c) :: place id check rest

/-- Takes a rule into the table that is the state; a rule that is refused is not put in. -/
def enter (id : String) (check : StaticCheck) : Act CheckTable Failure Unit := fun t =>
  let id := Text.trim id
  if id = "" then (.error .emptyId, t)
  else if t.contains id then (.error (.taken id), t)
  else (.ok (), ⟨place id check t.rules⟩)

/-- The table with a rule taken into it. -/
def register (t : CheckTable) (id : String) (check : StaticCheck) : Except Failure CheckTable :=
  match enter id check t with
  | (.ok (), t) => .ok t
  | (.error f, _) => .error f

def patternCheck (written : String) (forbid : Bool) (message : Option String) :
    Except Failure StaticCheck :=
  match Pattern.parse written with
  | .ok pattern => .ok (.pattern ⟨pattern, forbid, message⟩)
  | .error fault => .error (.badPattern written fault)

def entryCheck (entry : CheckEntry) : Except Failure StaticCheck :=
  match Pattern.parse entry.pattern with
  | .ok pattern => .ok (.pattern ⟨pattern, entry.forbid, entry.message⟩)
  | .error fault => .error (.badEntry entry.id entry.pattern fault)

/-- Takes the rules of configuration entries into a table, one after the other. -/
def registerAll (t : CheckTable) : List CheckEntry → Except Failure CheckTable
  | [] => .ok t
  | entry :: rest =>
      match entryCheck entry with
      | .error f => .error f
      | .ok check =>
          match t.register entry.id check with
          | .error f => .error f
          | .ok t => t.registerAll rest

def ofEntries (entries : List CheckEntry) : Except Failure CheckTable :=
  empty.registerAll entries

end CheckTable
end Trainer
