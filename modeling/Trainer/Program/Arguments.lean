import Trainer.Text

/-!
# Arguments

What the words of the command line ask for.  Options may stand before and after the command; what
is wrong first counts, and a request for help or the version counts as soon as it is read.
-/

namespace Trainer

inductive Command where
  | watch
  | run (name : Option String)
  | hint (name : Option String) (level : Option Nat)
  | list
deriving DecidableEq, Repr

inductive Request where
  | execute (root : String) (verbose : Bool) (command : Command)
  | help
  | version
  /-- The words are not understood. -/
  | misuse
deriving DecidableEq, Repr

namespace Arguments

/-- The commands, and the one that explains them. -/
inductive Word where
  | watch
  | run
  | hint
  | list
  | help
deriving DecidableEq, Repr

def wordOf? (s : String) : Option Word :=
  if s = "watch" then some .watch
  else if s = "run" then some .run
  else if s = "hint" then some .hint
  else if s = "list" then some .list
  else if s = "help" then some .help
  else none

/-- An option that takes a value. -/
inductive Valued where
  | root
  | level
deriving DecidableEq, Repr

/-- What has been read at one level: before the command, or behind it. -/
structure Level where
  root : Option String
  verbose : Bool
  name : Option String
  number : Option Nat
deriving DecidableEq, Repr

def Level.initial : Level := ⟨none, false, none, none⟩

/-- A number from 0 to 255, with an optional plus sign. -/
def byte? (s : String) : Option Nat :=
  let digits :=
    match s.toList with
    | '+' :: rest => rest
    | cs => cs
  let n := Chars.digitsValue digits
  if digits.isEmpty || !digits.all Char.isDigit || 255 < n then none else some n

/-- Takes the value of an option; none may be given twice. -/
def takeValue (l : Level) (o : Valued) (value : String) : Except Request Level :=
  match o with
  | .root =>
      if l.root.isSome || value = "" then .error .misuse else .ok { l with root := some value }
  | .level =>
      match byte? value with
      | some n => if l.number.isSome then .error .misuse else .ok { l with number := some n }
      | none => .error .misuse

def takeVerbose (l : Level) : Except Request Level :=
  if l.verbose then .error .misuse else .ok { l with verbose := true }

def takeName (word : Word) (l : Level) (name : String) : Except Request Level :=
  if (word = .run ∨ word = .hint) ∧ l.name = none then .ok { l with name := some name }
  else .error .misuse

inductive Known where
  | valued (o : Valued)
  | verbose
  | help
  | version
deriving DecidableEq, Repr

/-- The option of a long name; `none` for the level is the one before the command. -/
def longOption? (word : Option Word) (name : List Char) : Option Known :=
  let name := String.ofList name
  if name = "root" then some (.valued .root)
  else if name = "verbose" then some .verbose
  else if name = "help" then some .help
  else if name = "version" ∧ word = none then some .version
  else if name = "level" ∧ word = some .hint then some (.valued .level)
  else none

def shortOption? (word : Option Word) (c : Char) : Option Known :=
  if c = 'v' then some .verbose
  else if c = 'h' then some .help
  else if c = 'V' ∧ word = none then some .version
  else if c = 'l' ∧ word = some .hint then some (.valued .level)
  else none

/-- Splits a word at its first equals sign. -/
def splitValue (cs : List Char) : List Char × Option (List Char) :=
  let name := cs.takeWhile (· != '=')
  match cs.drop name.length with
  | [] => (name, none)
  | _ :: value => (name, some value)

/-- Takes letters behind one dash; gives the option whose value is still to come, if any. -/
def takeShort (word : Option Word) : Level → List Char → Except Request (Level × Option Valued)
  | l, [] => .ok (l, none)
  | l, c :: rest =>
      match shortOption? word c with
      | none => .error .misuse
      | some .help => .error .help
      | some .version => .error .version
      | some .verbose =>
          match takeVerbose l with
          | .ok l => takeShort word l rest
          | .error r => .error r
      | some (.valued o) =>
          match rest with
          | [] => .ok (l, some o)
          | '=' :: value => (takeValue l o (String.ofList value)).map fun l => (l, none)
          | value => (takeValue l o (String.ofList value)).map fun l => (l, none)

/-- Takes a word behind two dashes; gives the option whose value is still to come, if any. -/
def takeLong (word : Option Word) (l : Level) (cs : List Char) :
    Except Request (Level × Option Valued) :=
  let (name, value) := splitValue cs
  match longOption? word name, value with
  | none, _ => .error .misuse
  | some .help, none => .error .help
  | some .version, none => .error .version
  | some .verbose, none => (takeVerbose l).map fun l => (l, none)
  | some (.valued o), none => .ok (l, some o)
  | some (.valued o), some v => (takeValue l o (String.ofList v)).map fun l => (l, none)
  | _, some _ => .error .misuse

inductive Form where
  /-- Two dashes and nothing else. -/
  | divider
  | long (cs : List Char)
  | short (cs : List Char)
  | plain
deriving DecidableEq, Repr

def formOf (s : String) : Form :=
  match s.toList with
  | ['-', '-'] => .divider
  | '-' :: '-' :: cs => .long cs
  | '-' :: c :: cs => .short (c :: cs)
  | _ => .plain

def takeNames (word : Word) : Level → List String → Except Request Level
  | l, [] => .ok l
  | l, s :: rest =>
      match takeName word l s with
      | .ok l => takeNames word l rest
      | .error r => .error r

/-- Reads the words behind a command; `pending` is an option whose value comes next. -/
def readLevel (word : Word) : Level → Option Valued → List String → Except Request Level
  | l, none, [] => .ok l
  | _, some _, [] => .error .misuse
  | l, pending, s :: rest =>
      match formOf s, pending with
      | .divider, none => takeNames word l rest
      | .long cs, none =>
          match takeLong (some word) l cs with
          | .ok (l, pending) => readLevel word l pending rest
          | .error r => .error r
      | .short cs, none =>
          match takeShort (some word) l cs with
          | .ok (l, pending) => readLevel word l pending rest
          | .error r => .error r
      | .plain, none =>
          match takeName word l s with
          | .ok l => readLevel word l none rest
          | .error r => .error r
      | .plain, some o =>
          match takeValue l o s with
          | .ok l => readLevel word l none rest
          | .error r => .error r
      -- A word that begins with a dash is no value.
      | _, some _ => .error .misuse

def commandOf (word : Word) (l : Level) : Command :=
  match word with
  | .run => .run l.name
  | .hint => .hint l.name l.number
  | .list => .list
  | _ => .watch

/-- Reads the words of the command that explains: at most the name of another one. -/
def readHelp : List String → Request
  | [] => .help
  | [s] => if (wordOf? s).isSome then .help else .misuse
  | _ => .misuse

/-- Puts together what was read before and behind the command; what is behind counts more. -/
def request (outer : Level) (word : Word) (inner : Level) : Request :=
  .execute ((inner.root.or outer.root).getD ".") (outer.verbose || inner.verbose)
    (commandOf word inner)

def read (l : Level) (pending : Option Valued) : List String → Request
  | [] => if pending.isSome then .misuse else request l .watch Level.initial
  | s :: rest =>
      match formOf s, pending with
      | .divider, none => if rest.isEmpty then request l .watch Level.initial else .misuse
      | .long cs, none =>
          match takeLong none l cs with
          | .ok (l, pending) => read l pending rest
          | .error r => r
      | .short cs, none =>
          match takeShort none l cs with
          | .ok (l, pending) => read l pending rest
          | .error r => r
      | .plain, some o =>
          match takeValue l o s with
          | .ok l => read l none rest
          | .error r => r
      | .plain, none =>
          match wordOf? s with
          | none => .misuse
          | some .help => readHelp rest
          | some word =>
              match readLevel word Level.initial none rest with
              | .ok inner => request l word inner
              | .error r => r
      | _, some _ => .misuse

/-- What the words of a command line ask for. -/
def parse (words : List String) : Request :=
  read Level.initial none words

end Arguments
end Trainer
