import Trainer.Shell.Parameter
import Trainer.Shell.Place
import Trainer.Shell.Signal

/-!
# Functions of the shell

The commands that the shell itself carries out, as far as they carry out no commands in turn: they
change the process, its variables and options, or end a loop, a function or the process.
-/

namespace Trainer
namespace Shell

open Sh Utility

/-- The commands that the shell itself carries out and that act on it. -/
def builtins : List String :=
  [":", ".", "break", "continue", "return", "exit", "eval", "export", "readonly", "unset", "set",
    "shift", "trap", "wait", "cd", "pwd", "read", "umask", "type", "command", "local", "exec",
    "kill", "times", "hash", "jobs", "fg", "bg", "alias", "unalias", "getopts", "ulimit"]

/-! ## Numbers -/

/-- The complaint about a number that is none. -/
def illegalNumber {α : Type} (a : Bytes) : Sh α :=
  refuse ("Illegal number: ".toList ++ a)

/-- The number that the first argument gives, if there is one. -/
def firstNumber (usual : Nat) (args : List Bytes) : Sh Nat := do
  match args.head? with
  | none => return usual
  | some a =>
      match integer? a with
      | some n => if 0 ≤ n then return n.toNat else illegalNumber a
      | none => illegalNumber a

/-- How many of the loops around it a command ends or goes on with. -/
def roundsOf (args : List Bytes) : Sh Nat := do
  let n ← firstNumber 1 args
  if n = 0 then illegalNumber (args.headD [])
  return min n (← process).loops

def exitBuiltin (args : List Bytes) : Sh Unit := do
  match args.head? with
  | none => throw (.exit (← process).status)
  | some _ => throw (.exit ((← firstNumber 0 args) % 256))

def shiftBuiltin (args : List Bytes) : Sh Unit := do
  let n ← firstNumber 1 args
  if n ≤ (← process).args.length then
    modifyProcess fun p => { p with args := p.args.drop n }
    setStatus 0
  else refuse "can't shift that many".toList

/-! ## Variables -/

/-- Splits `name=value`. -/
def splitAssignment (a : Bytes) : Bytes × Option Bytes :=
  let name := a.takeWhile (· != '=')
  if name.length < a.length then (name, some (a.drop (name.length + 1))) else (name, none)

/-- Reads an argument that names a variable and may give it a value. -/
def namedArgument (a : Bytes) : Sh (Bytes × Option Bytes) := do
  let (n, v) := splitAssignment a
  if isName n then return (n, v) else refuse (n ++ ": bad variable name".toList)

/-- Sets a variable if there is a value. -/
def assign (name : Bytes) (value : Option Bytes) : Sh Unit :=
  match value with
  | some v => setVar name v
  | none => pure ()

/-- A text in single quotes, as the shell writes values so that it can read them again. -/
def quotedValue (cs : Bytes) : Bytes :=
  let parts := Chars.splitAt '\'' cs
  (parts.map fun p => '\'' :: p ++ ['\'']).intersperse "\"'\"".toList |>.flatten

/-- Writes variables as assignments in the order of their names, each behind a word. -/
def putVariables (lead : String) (vars : List (Bytes × Bytes)) : Sh Unit := do
  let sorted := vars.mergeSort fun a b => bytesLe a.1 b.1
  put (sorted.flatMap fun x => lead.toList ++ x.1 ++ '=' :: quotedValue x.2 ++ ['\n'])

def exportBuiltin (args : List Bytes) : Sh Unit := do
  let given := args.filter fun a => a != "-p".toList
  if given.isEmpty then
    let p ← process
    putVariables "export " (p.vars.filter fun x => p.exported.contains x.1)
  for a in given do
    let (n, v) ← namedArgument a
    assign n v
    modifyProcess fun p => { p with exported := n :: p.exported.filter (· != n) }
  setStatus 0

def readonlyBuiltin (args : List Bytes) : Sh Unit := do
  let given := args.filter fun a => a != "-p".toList
  if given.isEmpty then
    let p ← process
    putVariables "readonly " (p.vars.filter fun x => p.readOnly.contains x.1)
  for a in given do
    let (n, v) ← namedArgument a
    assign n v
    modifyProcess fun p => { p with readOnly := n :: p.readOnly }
  setStatus 0

/-- The function `local`: the values from before come back when the function is over. -/
def localBuiltin (args : List Bytes) : Sh Unit := do
  if (← process).depth = 0 then refuse "not in a function".toList
  for a in args do
    let (n, v) ← namedArgument a
    let old ← getVar n
    modifyProcess fun p => { p with saved := (n, old) :: p.saved }
    assign n v
  setStatus 0

def unsetBuiltin (args : List Bytes) : Sh Unit := do
  let functions := args.head? = some "-f".toList
  for a in args.filter fun a => a != "-f".toList && a != "-v".toList do
    if functions then
      modifyProcess fun p => { p with functions := p.functions.filter (·.1 != a) }
    else do
      if !isName a then refuse (a ++ ": bad variable name".toList)
      unsetVar a
  setStatus 0

/-! ## Options -/

/-- Sets or clears options by their letters. -/
def setOptions (on : Bool) (letters : Bytes) : Sh Unit :=
  modifyProcess fun p => { p with
    options := if on then p.options ++ letters.filter fun c => !p.options.contains c
      else p.options.filter fun c => !letters.contains c }

/-- The letter of an option with a long name. -/
def optionLetter (name : Bytes) : Option Char :=
  match String.ofList name with
  | "errexit" => some 'e'
  | "nounset" => some 'u'
  | "xtrace" => some 'x'
  | "noexec" => some 'n'
  | "noglob" => some 'f'
  | "verbose" => some 'v'
  | "allexport" => some 'a'
  | "noclobber" => some 'C'
  | "ignoreeof" => some 'I'
  | "interactive" => some 'i'
  | "monitor" => some 'm'
  | "stdin" => some 's'
  | "vi" => some 'V'
  | "emacs" => some 'E'
  | "notify" => some 'b'
  | _ => none

def setBuiltin : Nat → List Bytes → Sh Nat
  | 0, _ => return 0
  | _ + 1, [] => return 0
  | fuel + 1, a :: rest =>
      let named := fun on : Bool => do
        match rest with
        | [] => return 0
        | o :: more =>
            match optionLetter o with
            | some c => do
                setOptions on [c]
                setBuiltin fuel more
            | none => refuse ("Illegal option -o ".toList ++ o)
      let lettered := fun (on : Bool) (letters : Bytes) => do
        match letters.find? fun c => !optionLetters.contains c with
        | some c => refuse ("Illegal option -".toList ++ [c])
        | none => do
            setOptions on letters
            setBuiltin fuel rest
      match a with
      | ['-', '-'] => do
          modifyProcess fun p => { p with args := rest }
          return 0
      | ['-'] => do
          if !rest.isEmpty then modifyProcess fun p => { p with args := rest }
          return 0
      | ['-', 'o'] => named true
      | ['+', 'o'] => named false
      | '-' :: letters => lettered true letters
      | '+' :: letters => lettered false letters
      | _ => do
          modifyProcess fun p => { p with args := a :: rest }
          return 0

/-! ## Reading -/

/-- Splits a line for `read`: all fields but the last are cut off. -/
def readFields (ifs : Bytes) : Nat → List (Char × Bool) → List Bytes
  | 0, _ => []
  | 1, cs =>
      let trimmed := (cs.reverse.dropWhile fun x => !x.2 && isSpaceIn ifs x.1).reverse
      [plainChars (trimmed.dropWhile fun x => !x.2 && isSpaceIn ifs x.1)]
  | n + 2, cs =>
      let cs := cs.dropWhile fun x => !x.2 && isSpaceIn ifs x.1
      let field := cs.takeWhile fun x => x.2 || !ifs.contains x.1
      let rest := cs.drop field.length
      let rest := rest.dropWhile fun x => !x.2 && isSpaceIn ifs x.1
      let rest := match rest with
        | (c, false) :: more => if ifs.contains c && !isSpaceIn ifs c then more else rest
        | rest => rest
      plainChars field :: readFields ifs (n + 1) rest

/-- Takes the backslashes out of a line; true when it goes on in the next line. -/
def unquoteLine : Bytes → List (Char × Bool) × Bool
  | [] => ([], false)
  | ['\\'] => ([], true)
  | '\\' :: c :: rest =>
      let (more, goes) := unquoteLine rest
      ((c, true) :: more, goes)
  | c :: rest =>
      let (more, goes) := unquoteLine rest
      ((c, false) :: more, goes)

/-- Takes one line off a text; true when the line has an end.  Unless the text is `raw`, a
backslash at its end joins the next line to it. -/
def takeLine (raw : Bool) : Nat → Bytes → List (Char × Bool) × Bool × Bytes
  | 0, cs => ([], false, cs)
  | fuel + 1, cs =>
      let here := cs.takeWhile (· != '\n')
      let ended := here.length < cs.length
      let rest := cs.drop (here.length + 1)
      if raw then (here.map fun c => (c, false), ended, rest)
      else
        let (line, goes) := unquoteLine here
        if goes && ended then
          let (more, ended, rest) := takeLine raw fuel rest
          (line ++ more, ended, rest)
        else (line, ended, rest)

def readBuiltin (raw : Bool) : List Bytes → Sh Nat
  | ['-', 'r'] :: rest => readBuiltin true rest
  | ['-', 'p'] :: _ :: rest => readBuiltin raw rest
  | ['-', '-'] :: names => readNames raw names
  | ('-' :: c :: cs) :: rest =>
      if c = 'r' && cs.isEmpty then readNames true rest
      else do
        report ("Illegal option -".toList ++ [c])
        return 2
  | names => readNames raw names
where
  /-- Reads a line into variables. -/
  readNames (raw : Bool) (names : List Bytes) : Sh Nat := do
    if names.isEmpty then
      report "arg count".toList
      return 2
    match names.find? fun n => !isName n with
    | some n => do
        report (n ++ ": bad variable name".toList)
        return 2
    | none => do
        let (content, endless) ← readAll 0
        let (line, ended, rest) := takeLine raw (content.length + 1) content
        if !ended && endless then hang
        unread 0 rest
        let fields := readFields (← fieldSeparators) names.length line
        for (n, i) in names.zip (List.range names.length) do
          setVar n (fields.getD i [])
        return if ended then 0 else 1

/-! ## Directories -/

/-- The place that a path names by its text alone, a part `..` taking the part before it away. -/
def namedPlace (start : List String) (target : Bytes) : List String :=
  let parts := (Chars.splitAt '/' target).map nameOf
  (if target.head? = some '/' then [] else start) |> parts.foldl fun place part =>
    if part = "" ∨ part = "." then place
    else if part = ".." then place.dropLast
    else place ++ [part]

def cdBuiltin : List Bytes → Sh Nat
  | ['-', 'L'] :: rest => go rest
  | ['-', 'P'] :: rest => go rest
  | ['-', '-'] :: rest => go rest
  | ('-' :: c :: _) :: _ => do
      report ("Illegal option -".toList ++ [c])
      return 2
  | args => go args
where
  /-- Goes to a directory. -/
  go (args : List Bytes) : Sh Nat := do
    let p ← process
    let target :=
      match args with
      | [] => (p.vars.lookup "HOME".toList).getD []
      | ['-'] :: _ => (p.vars.lookup "OLDPWD".toList).getD []
      | a :: _ => a
    let place := namedPlace p.dir target
    match (← tree).get? place with
    | some .directory => do
        setVar "OLDPWD".toList (dirName p.dir)
        modifyProcess fun p => { p with dir := place }
        setVar "PWD".toList (dirName place)
        if args.head? = some ['-'] then put (dirName place ++ ['\n'])
        return 0
    | _ => do
        report ("can't cd to ".toList ++ target)
        return 2

/-! ## Traps -/

def trapBuiltin (args : List Bytes) : Sh Nat := do
  match args with
  | [] => do
      let traps := (← process).traps
      for n in List.range signalCount do
        match traps.lookup (signalKey n) with
        | some action => put ("trap -- ".toList ++ quotedValue action ++ ' ' ::
            (signalName n).toList ++ ['\n'])
        | none => pure ()
      return 0
  | ['-', '-'] :: rest => settle rest
  | args => settle args
where
  /-- Sets or clears actions. -/
  settle (args : List Bytes) : Sh Nat := do
    let (action, names) :=
      match args with
      | [a] => (['-'], [a])
      | a :: names => if (number? a).isSome then (['-'], a :: names) else (a, names)
      | [] => (['-'], [])
    for name in names do
      match signalNumber? name with
      | some n => modifyProcess fun p =>
          let others := p.traps.filter (·.1 != signalKey n)
          { p with traps := if action = ['-'] then others else (signalKey n, action) :: others }
      | none => do
          complain ("trap: ".toList ++ name ++ ": bad trap".toList)
          return 1
    return 0

/-! ## Options of scripts -/

/-- The function `getopts`: takes the next option off the arguments. -/
def getoptsBuiltin (spec name : Bytes) (given : List Bytes) : Sh Nat := do
  let p ← process
  let args := if given.isEmpty then p.args else given
  let index := max 1 (((p.vars.lookup "OPTIND".toList).bind number?).getD 1)
  let silent := spec.head? = some ':'
  let letters := if silent then spec.drop 1 else spec
  let finish := fun (next taken : Nat) (value : Bytes) (argument : Option Bytes) (status : Nat) => do
    setVar "OPTIND".toList (showNat next)
    modifyProcess fun p => { p with lettersTaken := taken }
    match argument with
    | some a => setVar "OPTARG".toList a
    | none => unsetVar "OPTARG".toList
    setVar name value
    return status
  match args[index - 1]? with
  | none => finish index 0 ['?'] none 1
  | some current =>
      if current = ['-', '-'] && p.lettersTaken = 0 then finish (index + 1) 0 ['?'] none 1
      else if current.head? != some '-' || current.length < 2 then finish index 0 ['?'] none 1
      else
        let place := p.lettersTaken + 1
        let c := current.getD place '?'
        let more := current.drop (place + 1)
        let (next, taken) := if more.isEmpty then (index + 1, 0) else (index, place)
        match (letters.dropWhile (· != c)), c != ':' with
        | _ :: after, true =>
            if after.head? = some ':' then
              if !more.isEmpty then finish (index + 1) 0 [c] (some more) 0
              else
                match args[index]? with
                | some a => finish (index + 2) 0 [c] (some a) 0
                | none =>
                    if silent then finish (index + 1) 0 [':'] (some [c]) 0
                    else do
                      complain ("No arg for -".toList ++ [c] ++ " option".toList)
                      finish (index + 1) 0 ['?'] none 0
            else finish next taken [c] (some []) 0
        | _, _ =>
            if silent then finish next taken ['?'] (some [c]) 0
            else do
              complain ("Illegal option -".toList ++ [c])
              finish next taken ['?'] none 0

/-! ## Other functions -/

/-- The rights that a mask leaves to one kind of user. -/
def rightsUnder (mask : Nat) : String :=
  (if mask / 4 % 2 = 0 then "r" else "") ++ (if mask / 2 % 2 = 0 then "w" else "") ++
    (if mask % 2 = 0 then "x" else "")

/-- The function `umask`. -/
def umaskBuiltin (args : List Bytes) : Sh Unit := do
  let mask := (← process).mask
  match args with
  | [] => do
      put (zeroFilled 8 4 mask ++ ['\n'])
      setStatus 0
  | ['-', 'S'] :: _ => do
      putText ("u=" ++ rightsUnder (mask / 64) ++ ",g=" ++ rightsUnder (mask / 8) ++ ",o=" ++
        rightsUnder mask ++ "\n")
      setStatus 0
  | a :: _ =>
      if a.all fun c => '0' ≤ c && c ≤ '7' then do
        let n := a.foldl (fun n c => 8 * n + (c.toNat - 48)) 0
        modifyProcess fun p => { p with mask := n % 512 }
        setStatus 0
      else do
        report ("Illegal number: ".toList ++ a)
        setStatus 2

def hashBuiltin (args : List Bytes) : Sh Unit := do
  setStatus 0
  for n in args.filter fun a => a.head? != some '-' do
    match ← findProgram n with
    | .refused _ _ =>
        if !builtins.contains (String.ofList n) then
          report (n ++ ": not found".toList)
          setStatus 1
    | _ => pure ()

/-- What a name means to the shell, if it means anything. -/
def meaningOf (p : Process) (n : Bytes) : Option String :=
  let s := String.ofList n
  if reserved.contains s then some "a shell keyword"
  else if (p.functions.lookup n).isSome then some "a shell function"
  else if specialBuiltins.contains s then some "a special shell builtin"
  else if builtins.contains s || (Utility.within.lookup s).isSome then some "a shell builtin"
  else if isInstalled s then some ("/usr/bin/" ++ s)
  else none

def typeBuiltin (args : List Bytes) : Sh Unit := do
  setStatus 0
  for n in args do
    match meaningOf (← process) n with
    | some meaning => put (n ++ (" is " ++ meaning ++ "\n").toList)
    | none => do
        put (n ++ ": not found\n".toList)
        setStatus 127

/-- The functions that carry out no commands themselves. -/
def simpleBuiltin (name : String) (args : List Bytes) : Sh Unit := do
  match name with
  | "break" => do
      let n ← roundsOf args
      if 0 < n then throw (.breakLoop n) else setStatus 0
  | "continue" => do
      let n ← roundsOf args
      if 0 < n then throw (.nextRound n) else setStatus 0
  | "return" => throw (.leave (← firstNumber (← process).status args))
  | "exit" => exitBuiltin args
  | "shift" => shiftBuiltin args
  | "export" => exportBuiltin args
  | "readonly" => readonlyBuiltin args
  | "local" => localBuiltin args
  | "unset" => unsetBuiltin args
  | "set" =>
      if args.isEmpty then do
        putVariables "" (← process).vars
        setStatus 0
      else setStatus (← setBuiltin (args.length + 1) args)
  | "trap" => setStatus (← trapBuiltin args)
  | "cd" => setStatus (← cdBuiltin args)
  | "pwd" => do
      put (dirName (← process).dir ++ ['\n'])
      setStatus 0
  | "read" => setStatus (← readBuiltin false args)
  | "umask" => umaskBuiltin args
  | "getopts" =>
      match args with
      | spec :: n :: given => setStatus (← getoptsBuiltin spec n given)
      | _ => do
          report "Usage: getopts optstring var [arg...]".toList
          setStatus 2
  | "fg" => do
      report "No current job".toList
      setStatus 2
  | "bg" => do
      report "No current job".toList
      setStatus 2
  | "ulimit" => do
      if args.all fun a => a = "-f".toList then putText "unlimited\n"
      setStatus 0
  | "hash" => hashBuiltin args
  | "type" => typeBuiltin args
  | _ => setStatus 0

end Shell
end Trainer
