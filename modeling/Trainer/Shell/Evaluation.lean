import Trainer.Shell.Arithmetic
import Trainer.Shell.Builtin
import Trainer.Shell.Utility.Batch

/-!
# Carrying out commands

Expansion of words, redirections, the control structures, and the commands that carry out commands.
Every function counts down `fuel`, so each of them ends; a script that would use it all up counts
as endless.
-/

namespace Trainer
namespace Shell

open Sh Utility

/-! ## Processes -/

/-- How a command was ended, seen from the process that waits for it. -/
def statusOf (pid : Nat) (outcome : Except Stop Unit) (status : Nat) :
    Except Stop (Nat × Option Nat) :=
  match outcome with
  | .ok () => .ok (status, none)
  | .error (.exit n) => .ok (n % 256, none)
  | .error (.leave n) => .ok (n % 256, none)
  | .error (.breakLoop _) => .ok (status, none)
  | .error (.nextRound _) => .ok (status, none)
  | .error (.signal target n) =>
      if target = pid then .ok (128 + n, some n) else .error (.signal target n)
  | .error .halt => .error .halt

/-- Runs an action as a process of its own: nothing of the process is changed by it. -/
def asChild (enter : Process → Process) (x : Sh Unit) : Sh Nat := do
  let p ← process
  let pid := (← machine).nextPid
  modifyMachine fun m => { m with nextPid := m.nextPid + 1 }
  set { (← get) with process := enter { p with pid := pid, pending := [], last := false } }
  let outcome ← attempt x
  let status := (← process).status
  modifyProcess fun _ => p
  match statusOf pid outcome status with
  | .error e => throw e
  | .ok (n, none) => return n
  | .ok (n, some signal) =>
      if signal ≠ 2 && signal ≠ 13 then complainText (signalText signal)
      return n

/-- The variables that a new program gets. -/
def environment (p : Process) : List (Bytes × Bytes) :=
  p.vars.filter fun x => p.exported.contains x.1
/-- Ends the shell if a failure is not to be tolerated. -/
def checkFailure : Sh Unit := do
  let p ← process
  if p.status ≠ 0 && p.options.contains 'e' && !p.tolerant then throw (.exit p.status)
/-- Runs an action as the rounds of a loop. -/
def inLoop (x : Sh Unit) : Sh Unit := do
  modifyProcess fun p => { p with loops := p.loops + 1 }
  let outcome ← attempt x
  modifyProcess fun p => { p with loops := p.loops - 1 }
  match outcome with
  | .ok () => pure ()
  | .error e => throw e
/-! ## Evaluation -/

mutual

def expandParts : Nat → Word → Sh (List Element)
  | 0, _ => hang
  | _ + 1, [] => return []
  | fuel + 1, part :: rest => do
      let here ←
        match part with
        | .char c q => pure [Element.fixed c q]
        | .quotes => pure [Element.quotes]
        | .output text line q => do
            let out ← outputOf fuel text line
            pure (elementsOf q out)
        | .arithmetic text q => do
            let expanded ←
              match quotedOf text with
              | .ok w => do pure (plainChars (joinElements (← expandParts fuel w)))
              | .error _ => pure text
            match Arithmetic.run (← process).vars expanded with
            | .ok (n, vars) => do
                modifyProcess fun p => { p with vars := vars }
                pure (elementsOf q (Arithmetic.text n))
            | .error m => refuse (m.message expanded)
        | .param name use q => expandParam fuel name use q
      return here ++ (← expandParts fuel rest)

def expandParam : Nat → Bytes → ParamUse → Bool → Sh (List Element)
  | 0, _, _, _ => hang
  | fuel + 1, name, use, q => do
      let value ← paramValue name
      let isList := name = ['@'] || name = ['*']
      let missing := fun orEmpty : Bool => value.isNone || (orEmpty && value == some [])
      let plain : Sh (List Element) := do
        if isList then elementsOfArgs q (name = ['*'])
        else
          match value with
          | some v => return elementsOf q v
          | none =>
              if (← process).options.contains 'u' then
                refuse (name ++ ": parameter not set".toList)
              else return []
      let wordElements := fun text : Bytes => do
        match if q then quotedOf text else wordOf text with
        | .ok w => do
            let es ← expandParts fuel w
            return es.map fun e => match e with
              | .fixed c false => if q then e else .loose c
              | e => e
        | .error (m, _) => refuse m.message.toList
      let wordText := fun text : Bytes => do
        return plainChars (joinElements (← wordElements text))
      let wordItems := fun text : Bytes => do
        match wordOf text with
        | .ok w => return Glob.items (joinElements (← expandParts fuel w))
        | .error _ => return Glob.items (text.map fun c => (c, false))
      match use with
      | .plain => plain
      | .length =>
          if isList then return elementsOf q (showNat (← process).args.length)
          else return elementsOf q (showNat (value.getD []).length)
      | .fallback orEmpty word => if missing orEmpty then wordElements word else plain
      | .assign orEmpty word =>
          if missing orEmpty then do
            let text ← wordText word
            setVar name text
            return elementsOf q text
          else plain
      | .complain orEmpty word =>
          if missing orEmpty then do
            let text ← wordText word
            refuse (name ++ ": ".toList ++
              if text.isEmpty then
                (if orEmpty then "parameter not set or null" else "parameter not set").toList
              else text)
          else plain
      | .instead orEmpty word => if missing orEmpty then return [] else wordElements word
      | .dropStart longest pattern => do
          let items ← wordItems pattern
          return elementsOf q (Glob.dropStart longest items (value.getD []))
      | .dropEnd longest pattern => do
          let items ← wordItems pattern
          return elementsOf q (Glob.dropEnd longest items (value.getD []))
      | .unknown => refuse "Bad substitution".toList

/-- The output of a command without line ends at its end. -/
def outputOf : Nat → Bytes → Nat → Sh Bytes
  | 0, _, _ => hang
  | fuel + 1, text, line => do
      let sink ← newDescription (.sink [])
      let status ← asChild
        (fun p => { p with fds := (1, sink) :: p.fds.filter (·.1 != 1), traps := [] })
        (runText fuel false text line)
      modifyProcess fun p => { p with outputStatus := some status }
      match (← machine).descriptions.getD sink .none with
      | .sink content => return (content.dropWhile (· == '\n')).reverse
      | _ => return []

/-- The text of a word, not split into fields. -/
def expandText : Nat → Word → Sh Bytes
  | 0, _ => hang
  | fuel + 1, w => do
      return plainChars (joinElements (← expandParts fuel (← tilde w)))

/-- Words as arguments. -/
def expandWords : Nat → List Word → Sh (List Bytes)
  | 0, _ => hang
  | _ + 1, [] => return []
  | fuel + 1, w :: rest => do
      let elements ← expandParts fuel (← tilde w)
      let fields := splitFields (← fieldSeparators) FieldState.start false elements
      let t ← tree
      let here := if (← process).options.contains 'f' then fields.map plainChars
        else fields.flatMap (globField t)
      return here ++ (← expandWords fuel rest)

/-- Applies redirections; false if one of them cannot be done. -/
def redirect : Nat → List Redirect → Sh Bool
  | 0, _ => hang
  | _ + 1, [] => return true
  | fuel + 1, r :: rest => do
      let opening := fun (target : Word) (writing append create : Bool) => do
        match ← openPath (← expandText fuel target) writing append create with
        | .ok place => do
            bindFd r.fd place
            return true
        | .error text => do
            report text
            return false
      let fine ←
        match r.direction with
        | .input target => opening target false false false
        | .output target => do
            let text ← expandText fuel target
            if (← process).options.contains 'C' && (← tree).isFile (pathOf text) then
              report ("cannot create ".toList ++ text ++ ": File exists".toList)
              pure false
            else opening target true false true
        | .overwrite target => opening target true false true
        | .append target => opening target true true true
        | .both target => opening target true false false
        | .text body => do
            let text := plainChars (joinElements (← expandParts fuel body))
            bindFd r.fd (← newDescription (.source text false))
            pure true
        | .duplicate target => do
            let text ← expandText fuel target
            if text = ['-'] then
              closeFd r.fd
              pure true
            else
              match number? text, text with
              | some n, [_] =>
                  match ← placeOf n with
                  | some place => do
                      bindFd r.fd place
                      pure true
                  | none => do
                      report (text ++ ": Bad file descriptor".toList)
                      pure false
              | _, _ => refuse "Syntax error: Bad fd number".toList
      if fine then redirect fuel rest else return false

/-- Runs an action with redirections that last as long as it does; if one of them cannot be done
and that is `fatal`, the shell ends. -/
def withRedirects : Nat → Bool → List Redirect → Sh Unit → Sh Unit
  | 0, _, _, _ => hang
  | fuel + 1, fatal, redirects, x => do
      let fds := (← process).fds
      if ← redirect fuel redirects then
        let outcome ← attempt x
        modifyProcess fun p => { p with fds := fds }
        match outcome with
        | .ok () => pure ()
        | .error e => throw e
      else
        modifyProcess fun p => { p with fds := fds }
        if fatal then throw (.exit 2) else setStatus 2

/-- Runs an action whose failure is expected. -/
def tolerating : Nat → Command → Sh Unit
  | 0, _ => hang
  | fuel + 1, c => do
      let before := (← process).tolerant
      modifyProcess fun p => { p with tolerant := true }
      let outcome ← attempt (execute fuel c)
      modifyProcess fun p => { p with tolerant := before }
      match outcome with
      | .ok () => pure ()
      | .error e => throw e

def execute : Nat → Command → Sh Unit
  | 0, _ => hang
  | fuel + 1, c => do
      match c with
      | .nothing => setStatus 0
      | .simple line assigned words redirects => do
          if !(← process).options.contains 'n' then
            modifyProcess fun p => { p with line := line }
            simpleCommand fuel assigned words redirects
            settleJobs fuel
            checkFailure
      | .sequence a b => do
          let last := (← process).last
          modifyProcess fun p => { p with last := false }
          execute fuel a
          modifyProcess fun p => { p with last := last }
          execute fuel b
      | .both a b => do
          let last := (← process).last
          modifyProcess fun p => { p with last := false }
          tolerating fuel a
          modifyProcess fun p => { p with last := last }
          if (← process).status = 0 then execute fuel b
      | .either a b => do
          let last := (← process).last
          modifyProcess fun p => { p with last := false }
          tolerating fuel a
          modifyProcess fun p => { p with last := last }
          if (← process).status ≠ 0 then execute fuel b
      | .group inner redirects => withRedirects fuel false redirects (execute fuel inner)
      | .subshell inner redirects => do
          withRedirects fuel false redirects do
            setStatus (← asChild (fun p => { p with traps := [] }) (execute fuel inner))
          checkFailure
      | .pipeline negated parts => do
          modifyProcess fun p => { p with last := false }
          let before := (← process).tolerant
          if negated then modifyProcess fun p => { p with tolerant := true }
          match parts with
          | [one] => execute fuel one
          | parts => do
              let start := (← machine).clock
              pipe fuel start start false none parts
          modifyProcess fun p => { p with tolerant := before }
          if negated then setStatus (if (← process).status = 0 then 1 else 0)
          else checkFailure
      | .background inner => do
          let pid := (← machine).nextPid
          let now := (← machine).clock
          modifyMachine fun m => { m with nextPid := m.nextPid + 1 }
          let nothing ← newDescription .nothing
          modifyProcess fun p => { p with
            lastJob := some pid
            status := 0
            pending := p.pending ++ [⟨pid, now, inner, p.name, p.args, p.vars, p.exported,
              p.functions, (0, nothing) :: p.fds.filter (·.1 != 0), p.dir, p.options⟩] }
      | .branch test yes no redirects =>
          withRedirects fuel false redirects do
            let last := (← process).last
            modifyProcess fun p => { p with last := false }
            tolerating fuel test
            modifyProcess fun p => { p with last := last }
            if (← process).status = 0 then execute fuel yes else execute fuel no
      | .loop negated test body redirects => do
          modifyProcess fun p => { p with last := false }
          withRedirects fuel false redirects
            (inLoop (repeatLoop fuel negated test body 0))
      | .each name words body redirects => do
          modifyProcess fun p => { p with last := false }
          withRedirects fuel false redirects do
            let values ←
              match words with
              | some ws => expandWords fuel ws
              | none => do pure (← process).args
            setStatus 0
            inLoop (eachLoop fuel name body values)
      | .select subject cases redirects =>
          withRedirects fuel false redirects do
            let text ← expandText fuel subject
            setStatus 0
            selectCase fuel text cases
      | .define name body => do
          modifyProcess fun p => { p with
            functions := (name, body) :: p.functions.filter (·.1 != name) }
          setStatus 0

/-- Runs the body of a loop as long as its test says. -/
def repeatLoop : Nat → Bool → Command → Command → Nat → Sh Unit
  | 0, _, _, _, _ => hang
  | fuel + 1, negated, test, body, status => do
      countStep
      match ← attempt (tolerating fuel test) with
      | .error (.breakLoop n) => if 1 < n then throw (.breakLoop (n - 1)) else setStatus 0
      | .error (.nextRound n) =>
          if 1 < n then throw (.nextRound (n - 1)) else repeatLoop fuel negated test body status
      | .error e => throw e
      | .ok () =>
          if ((← process).status = 0) == negated then setStatus status
          else
            match ← attempt (execute fuel body) with
            | .error (.breakLoop n) => if 1 < n then throw (.breakLoop (n - 1)) else setStatus 0
            | .error (.nextRound n) =>
                if 1 < n then throw (.nextRound (n - 1)) else repeatLoop fuel negated test body 0
            | .error e => throw e
            | .ok () => do
                let status := (← process).status
                repeatLoop fuel negated test body status

/-- Runs the body of a loop for each of some values. -/
def eachLoop : Nat → Bytes → Command → List Bytes → Sh Unit
  | 0, _, _, _ => hang
  | _ + 1, _, _, [] => pure ()
  | fuel + 1, name, body, v :: rest => do
      countStep
      setVar name v
      match ← attempt (execute fuel body) with
      | .error (.breakLoop n) => if 1 < n then throw (.breakLoop (n - 1)) else setStatus 0
      | .error (.nextRound n) =>
          if 1 < n then throw (.nextRound (n - 1)) else eachLoop fuel name body rest
      | .error e => throw e
      | .ok () => eachLoop fuel name body rest

/-- Carries out the first case with a pattern that fits. -/
def selectCase : Nat → Bytes → List (List Word × Command) → Sh Unit
  | 0, _, _ => hang
  | _ + 1, _, [] => pure ()
  | fuel + 1, text, (patterns, body) :: rest => do
      if ← anyFits fuel text patterns then execute fuel body else selectCase fuel text rest

def anyFits : Nat → Bytes → List Word → Sh Bool
  | 0, _, _ => hang
  | _ + 1, _, [] => return false
  | fuel + 1, text, w :: rest => do
      let elements ← expandParts fuel w
      if Glob.fits (Glob.items (joinElements elements)) text then return true
      else anyFits fuel text rest

/-- Runs the parts of a pipeline, each with the output of the one before as its input; all of them
start at one time, and the last one to end ends the pipeline. -/
def pipe : Nat → Nat → Nat → Bool → Option Bytes → List Command → Sh Unit
  | 0, _, _, _, _, _ => hang
  | _ + 1, _, latest, halted, _, [] => do
      modifyMachine fun m => { m with clock := latest }
      if halted then hang
  | fuel + 1, start, latest, halted, input, c :: rest => do
      modifyMachine fun m => { m with clock := start }
      let source ←
        match input with
        | some bytes => do
            let place ← newDescription (.source bytes halted)
            pure (some place)
        | none => pure none
      let sink ← newDescription (.sink [])
      let enter := fun p : Process =>
        let fds := match source with
          | some i => (0, i) :: p.fds.filter (·.1 != 0)
          | none => p.fds
        { p with
          traps := []
          fds := if rest.isEmpty then fds else (1, sink) :: fds.filter (·.1 != 1) }
      let before ← process
      let outcome ← attempt (asChild enter (execute fuel c))
      let ended := (← machine).clock
      let output :=
        match (← machine).descriptions.getD sink .none with
        | .sink content => content.reverse
        | _ => []
      match outcome with
      | .ok status => do
          setStatus status
          pipe fuel start (max latest ended) false (some output) rest
      | .error .halt => do
          modifyProcess fun _ => before
          if rest.isEmpty then hang
          else pipe fuel start latest true (some output) rest
      | .error e => throw e

/-- Tries to finish the commands in the background up to the present time. -/
def settleJobs : Nat → Sh Unit
  | 0 => hang
  | fuel + 1 => do
      let p ← process
      if !p.pending.isEmpty then
        modifyProcess fun p => { p with pending := [] }
        let left ← settleEach fuel p.pending
        modifyProcess fun p => { p with pending := left ++ p.pending }

/-- Tries the commands of a list; gives those that take longer. -/
def settleEach : Nat → List Pending → Sh (List Pending)
  | 0, _ => hang
  | _ + 1, [] => return []
  | fuel + 1, j :: rest => do
      let now := (← machine).clock
      if now = j.started then return j :: (← settleEach fuel rest)
      let saved ← get
      match ← runJob fuel j now with
      | some _ => settleEach fuel rest
      | none => do
          set saved
          return j :: (← settleEach fuel rest)

/-- Runs a command of the background up to a time; gives its status if it has ended by then. -/
def runJob : Nat → Pending → Nat → Sh (Option Nat)
  | 0, _, _ => hang
  | fuel + 1, j, limit => do
      let p ← process
      let m ← machine
      modifyMachine fun m => { m with clock := j.started, deadline := min limit m.deadline }
      let outcome ← attempt <| asChild
        (fun p => { p with
          pid := j.pid, name := j.name, args := j.args, vars := j.vars, exported := j.exported
          functions := j.functions, fds := j.fds, dir := j.dir, options := j.options, traps := [] })
        (execute fuel j.command)
      let ended := (← machine).clock
      modifyMachine fun now => { now with clock := m.clock, deadline := m.deadline }
      modifyProcess fun _ => p
      match outcome with
      | .ok status => do
          modifyProcess fun p => { p with finished := (j.pid, status) :: p.finished }
          modifyMachine fun now => { now with clock := max m.clock (min ended m.deadline) }
          return some status
      | .error .halt => return none
      | .error e => throw e

/-- Waits for commands in the background, all of them if none is named. -/
def waitFor : Nat → List Nat → Sh Nat
  | 0, _ => hang
  | fuel + 1, pids => do
      let p ← process
      let wanted := p.pending.filter fun j => pids.isEmpty || pids.contains j.pid
      let others := p.pending.filter fun j => !(pids.isEmpty || pids.contains j.pid)
      modifyProcess fun p => { p with pending := others }
      waitEach fuel wanted
      match pids.getLast? with
      | some pid => do
          let status := ((← process).finished.lookup pid).getD 127
          if (← process).unheard.contains pid then complainText (signalText (status - 128))
          modifyProcess fun p => { p with unheard := p.unheard.filter (· != pid) }
          return status
      | none => do
          modifyProcess fun p => { p with unheard := [] }
          return 0

def waitEach : Nat → List Pending → Sh Unit
  | 0, _ => hang
  | _ + 1, [] => pure ()
  | fuel + 1, j :: rest => do
      let deadline := (← machine).deadline
      match ← runJob fuel j deadline with
      | some _ => waitEach fuel rest
      | none => hang

/-- Reads and carries out a script line by line; `final` lets its last command take over. -/
def runText : Nat → Bool → Bytes → Nat → Sh Unit
  | 0, _, _, _ => hang
  | fuel + 1, final, text, line => runLines fuel final (Reader.start text line)

/-- Carries out what a reader has left. -/
def runLines : Nat → Bool → Reader → Sh Unit
  | 0, _, _ => hang
  | fuel + 1, final, reader => do
      match reader.next with
      | .error (m, line) => do
          modifyProcess fun p => { p with line := line }
          refuse m.message.toList
      | .ok (none, _) => pure ()
      | .ok (some c, rest) => do
          let isLast := final && rest.rest.all fun d => d == '\n' || d == ' ' || d == '\t'
          if (← process).options.contains 'n' then runLines fuel final rest
          else do
            modifyProcess fun p => { p with last := isLast && p.traps.isEmpty }
            execute fuel c
            runLines fuel final rest

def simpleCommand : Nat → List (Bytes × Word) → List Word → List Redirect → Sh Unit
  | 0, _, _, _ => hang
  | fuel + 1, assigned, words, redirects => do
      countStep
      modifyProcess fun p => { p with outputStatus := none }
      let args ← expandWords fuel words
      match args with
      | [] => do
          let values ← assignAll fuel assigned
          if (← process).options.contains 'x' && !values.isEmpty then
            complain ("+ ".toList ++ (values.intersperse [' ']).flatten)
          setStatus ((← process).outputStatus.getD 0)
          if !redirects.isEmpty then withRedirects fuel false redirects (pure ())
      | name :: rest => do
          let p ← process
          if p.options.contains 'x' then
            complain ("+ ".toList ++ (args.intersperse [' ']).flatten)
          let builtinName := String.ofList name
          match p.functions.lookup name with
          | some body =>
              withRedirects fuel false redirects do
                let _ ← assignAll fuel assigned
                callFunction fuel body rest
          | none =>
              if builtins.contains builtinName then
                if name = "exec".toList then
                  execBuiltin fuel assigned rest redirects
                else
                  withRedirects fuel (specialBuiltins.contains builtinName) redirects do
                    let _ ← assignAll fuel assigned
                    builtin fuel builtinName rest
              else
                let saved := (← process).vars
                let exported := (← process).exported
                withRedirects fuel false redirects do
                  let _ ← assignAll fuel assigned
                  modifyProcess fun p => { p with
                    exported := assigned.map Prod.fst ++ p.exported }
                  program fuel name rest
                modifyProcess fun p => { p with vars := saved, exported := exported }

/-- Assigns words to variables; gives the assignments as texts. -/
def assignAll : Nat → List (Bytes × Word) → Sh (List Bytes)
  | 0, _ => hang
  | _ + 1, [] => return []
  | fuel + 1, (name, w) :: rest => do
      let value ← expandText fuel (tildesIn w)
      setVar name value
      return (name ++ '=' :: value) :: (← assignAll fuel rest)

def callFunction : Nat → Command → List Bytes → Sh Unit
  | 0, _, _ => hang
  | fuel + 1, body, args => do
      let p ← process
      if 1000 ≤ p.depth then
        report "Maximum function recursion depth (1000) reached".toList
        throw (.exit 2)
      modifyProcess fun p => { p with
        args := args, depth := p.depth + 1, saved := [], last := false, loops := 0 }
      let outcome ← attempt (execute fuel body)
      let locals := (← process).saved
      for (name, value) in locals do
        match value with
        | some v => modifyProcess fun p =>
            { p with vars := (name, v) :: p.vars.filter (·.1 != name) }
        | none => unsetVar name
      modifyProcess fun now => { now with
        args := p.args, depth := p.depth, saved := p.saved, loops := p.loops }
      match outcome with
      | .error (.leave n) => setStatus n
      | .error e => throw e
      | .ok () => pure ()

/-- Puts a program in the place of the shell, or makes redirections last. -/
def execBuiltin : Nat → List (Bytes × Word) → List Bytes → List Redirect → Sh Unit
  | 0, _, _, _ => hang
  | fuel + 1, assigned, args, redirects => do
      if !(← redirect fuel redirects) then throw (.exit 2)
      let _ ← assignAll fuel assigned
      match args with
      | [] => setStatus 0
      | name :: rest => do
          modifyProcess fun p => { p with
            last := true, doing := "exec".toList
            exported := assigned.map Prod.fst ++ p.exported }
          program fuel name rest
          throw (.exit (← process).status)

/-- Runs a program: a utility, the shell itself, or a script. -/
def program : Nat → Bytes → List Bytes → Sh Unit
  | 0, _, _ => hang
  | fuel + 1, name, args => do
      modifyProcess fun p => { p with unheard := [] }
      match ← findProgram name with
      | .utility utility =>
          match (Utility.within.lookup utility).or (Utility.table.lookup utility) with
          | some run => do
              let before := (← process).doing
              if (Utility.within.lookup utility).isSome then
                modifyProcess fun p => { p with doing := utility.toList }
              setStatus (← run args)
              modifyProcess fun p => { p with doing := before }
          | none => otherProgram fuel utility args
      | .script path contents => do
          let (interpreter, options) := interpreterOf contents
          match interpreter with
          | none => scriptProcess fuel [] path args contents
          | some i =>
              if isProgram (String.ofList i) && ["sh", "dash"].contains (String.ofList i) then
                scriptProcess fuel options path args contents
              else do
                report (name ++ ": not found".toList)
                setStatus 127
      | .refused reason status => do
          report (name ++ ": ".toList ++ reason)
          setStatus status

/-- Runs an action as a program of its own, which takes the shell's place if it is the last. -/
def newProgram : Nat → Bytes → List Bytes → List Char → Sh Unit → Sh Unit
  | 0, _, _, _, _ => hang
  | _ + 1, name, args, options, x => do
      let p ← process
      let fresh := fun q : Process => { q with
        name := name, args := args, vars := environment q, exported := q.exported
        functions := [], status := 0, options := options, traps := [], line := 1, depth := 0
        doing := [], loops := 0, outputStatus := none, lettersTaken := 0
        tolerant := false, lastJob := none, pending := [], finished := [], unheard := []
        saved := [] }
      let run : Sh Unit := do
        let outcome ← attempt x
        finishShell outcome
      if p.last then
        modifyProcess fresh
        run
        throw (.exit (← process).status)
      else
        setStatus (← asChild (fun q => { fresh q with shownPid := q.pid }) run)
where
  /-- Carries out the action for the end of a shell. -/
  finishShell (outcome : Except Stop Unit) : Sh Unit := do
    match outcome with
    | .ok () => pure ()
    | .error e => throw e

/-- Runs a file of commands as a program. -/
def scriptProcess : Nat → List Char → Bytes → List Bytes → Bytes → Sh Unit
  | 0, _, _, _, _ => hang
  | fuel + 1, options, name, args, text =>
      newProgram fuel name args options (shellBody fuel false text)

/-- Carries out a script and then the action for the end of the shell. -/
def shellBody : Nat → Bool → Bytes → Sh Unit
  | 0, _, _ => hang
  | fuel + 1, final, text => do
      let outcome ← attempt (runText fuel final text 1)
      let ended := (← process).status
      match (← process).traps.lookup (signalKey 0), outcome with
      | _, .error .halt => throw .halt
      | _, .error (.signal pid n) => throw (.signal pid n)
      | some action, outcome => do
          let status := match outcome with
            | .error (.exit n) => n
            | .error (.leave n) => n
            | _ => ended
          setStatus status
          modifyProcess fun p => { p with traps := [], last := false }
          runText fuel false action 1
          throw (.exit status)
      | none, .error (.exit n) => throw (.exit n)
      | none, .error (.leave n) => throw (.exit n)
      | none, _ => pure ()

/-- Runs the shell, or a program that runs another one. -/
def otherProgram : Nat → String → List Bytes → Sh Unit
  | 0, _, _ => hang
  | fuel + 1, name, args => do
      match name with
      | "env" => do
          let assigned := args.takeWhile fun a => a.contains '='
          match args.drop assigned.length with
          | [] => do
              for (n, v) in environment (← process) do
                put (n ++ '=' :: v ++ ['\n'])
              setStatus 0
          | command :: rest => do
              for a in assigned do
                match splitAssignment a with
                | (n, some v) => do
                    setVar n v
                    modifyProcess fun p => { p with exported := n :: p.exported }
                | _ => pure ()
              program fuel command rest
      | "nohup" =>
          match args with
          | [] => setStatus 125
          | command :: rest => program fuel command rest
      | "timeout" =>
          match args with
          | limit :: command :: rest => do
              let m ← machine
              let stop := m.clock + (sleepTime limit).getD 0
              modifyMachine fun m => { m with deadline := min m.deadline stop }
              let p ← process
              let outcome ← attempt (asChild id (program fuel command rest))
              modifyMachine fun now => { now with deadline := m.deadline }
              match outcome with
              | .ok status => setStatus status
              | .error .halt => do
                  modifyProcess fun _ => p
                  if m.deadline < stop then hang
                  modifyMachine fun now => { now with clock := stop }
                  setStatus 124
              | .error e => throw e
          | _ => setStatus 125
      | "xargs" => do
          let (content, endless) ← readAll 0
          if endless then hang
          let o := Options.takeFrom ['n', 'I', 'L'] false (args.length + 1) ⟨[], [], [], none⟩ args
          let command := if o.rest.isEmpty then ["echo".toList] else o.rest
          match o.value? 'I' with
          | some mark =>
              let lines := (linesOf content).1.map fun l => Chars.trim l
              xargsEach fuel ((lines.filter fun l => !l.isEmpty).map fun l =>
                command.map fun a => replaceText mark l (a.length + 1) a) 0
          | none =>
              let items := xargsItems (content.length + 1) content
              let size := ((o.value? 'n').bind number?).getD (items.length + 1)
              let groups := groupsOf (max size 1) (items.length + 1) items
              let groups := if groups.isEmpty && !o.has 'r' then [[]] else groups
              xargsEach fuel (groups.map fun g => command ++ g) 0
      | "which" => do
          let mut status := if args.isEmpty then 1 else 0
          for n in args do
            if isInstalled (String.ofList n) && n != "cd".toList then
              put ("/usr/bin/".toList ++ n ++ ['\n'])
            else status := 1
          setStatus status
      | "kill" => setStatus (← killBuiltin fuel args)
      | "pwd" => do
          put (dirName (← process).dir ++ ['\n'])
          setStatus 0
      | _ => shellProgram fuel [] args

/-- Runs command lines one after the other for `xargs`. -/
def xargsEach : Nat → List (List Bytes) → Nat → Sh Unit
  | 0, _, _ => hang
  | _ + 1, [], status => setStatus status
  | fuel + 1, command :: rest, status => do
      match command with
      | [] => pure ()
      | name :: args => do
          modifyProcess fun p => { p with last := false }
          match ← findProgram name with
          | .refused _ _ => do
              complain ("xargs: ".toList ++ name ++ ": No such file or directory".toList)
              throw (.exit 127)
          | _ => program fuel name args
      let status := if (← process).status = 0 then status else 123
      xargsEach fuel rest status

/-- Runs the shell with its arguments; the letters of options are collected. -/
def shellProgram : Nat → List Char → List Bytes → Sh Unit
  | 0, _, _ => hang
  | fuel + 1, options, args => do
      let illegal := fun text : Bytes => do
        complain ("sh: 0: ".toList ++ text)
        setStatus 2
      match args with
      | ['-', 'c'] :: text :: rest => do
          let (name, rest) := match rest with
            | n :: rest => (n, rest)
            | [] => ("sh".toList, [])
          newProgram fuel name rest options (shellBody fuel true text)
      | [['-', 'c']] => illegal "-c requires an argument".toList
      | ['-', 's'] :: rest => do
          let (content, endless) ← readAll 0
          if endless then hang
          newProgram fuel "sh".toList rest options (shellBody fuel false content)
      | ['-', '-'] :: rest => shellProgram fuel options rest
      | ['-', 'o'] :: o :: rest =>
          match optionLetter o with
          | some c => shellProgram fuel (options ++ [c]) rest
          | none => illegal ("Illegal option -o ".toList ++ o)
      | ('-' :: c :: cs) :: rest =>
          match (c :: cs).find? fun d => !optionLetters.contains d && d != 'c' && d != 's' with
          | some d => illegal ("Illegal option -".toList ++ [d])
          | none =>
              if (c :: cs).contains 'c' then
                shellProgram fuel (options ++ (c :: cs).filter (· != 'c')) ("-c".toList :: rest)
              else shellProgram fuel (options ++ (c :: cs)) rest
      | file :: rest =>
          match ← readPath file with
          | .ok (content, _) => newProgram fuel file rest options (shellBody fuel false content)
          | .error .isDirectory => setStatus 0
          | .error e =>
              let reason := if e = .notFound || e = .notDirectory then "No such file"
                else systemText e
              illegal ("cannot open ".toList ++ file ++ (": " ++ reason).toList)
      | [] => do
          let (content, endless) ← readAll 0
          if endless then hang
          newProgram fuel "sh".toList [] options (shellBody fuel false content)

/-- Sends signals. -/
def killBuiltin : Nat → List Bytes → Sh Nat
  | 0, _ => hang
  | fuel + 1, args => do
      let usage : Sh Nat := do
        report ("Usage: kill [-s sigspec | -signum | -sigspec] [pid | job]... or\n" ++
          "kill -l [exitstatus]").toList
        return 2
      let send := fun (n : Nat) (targets : List Bytes) =>
        let targets := if targets.head? = some ['-', '-'] then targets.drop 1 else targets
        if targets.isEmpty then usage else killEach fuel n targets 0
      match args with
      | [] => usage
      | ['-', 'l'] :: [] => do
          put (((List.range signalCount).flatMap fun n =>
            (if n = 0 then "0" else signalName n).toList ++ ['\n']))
          return 0
      | ['-', 'l'] :: a :: _ => do
          match number? a with
          | none => do
              report ("Illegal number: ".toList ++ a)
              return 2
          | some n => do
              let n := if 128 < n then n - 128 else n
              if 0 < n ∧ n < signalCount then
                putText (signalName n ++ "\n")
                return 0
              else do
                report ("invalid signal number or exit status: ".toList ++ a)
                return 2
      | ['-', 's'] :: [] => do
          report "No arg for -s option".toList
          return 2
      | ['-', 's'] :: name :: rest =>
          match signalNumber? name with
          | some n => send n rest
          | none => do
              report ("invalid signal number or name: ".toList ++ name)
              return 2
      | ['-', '-'] :: rest => send 15 rest
      | ('-' :: name) :: rest =>
          match signalNumber? name with
          | some n => send n rest
          | none => do
              report ("Illegal option -".toList ++ name.take 1)
              return 2
      | rest => send 15 rest

/-- Sends a signal to processes one after the other. -/
def killEach : Nat → Nat → List Bytes → Nat → Sh Nat
  | 0, _, _, _ => hang
  | _ + 1, _, [], status => return status
  | fuel + 1, n, t :: rest, status => do
      let p ← process
      match integer? t with
      | none => do
          report ((if t.head? = some '%' then "No such job: " else "Illegal number: ").toList ++ t)
          return 2
      | some pid =>
          let own := pid = p.shownPid || pid = p.pid || pid ≤ 0
          let target := if pid = p.pid then p.pid else p.shownPid
          if own then
            if n = 0 || n = 17 || n = 18 || n = 23 || n = 28 then killEach fuel n rest status
            else
              match (p.traps.lookup (signalKey n)).filter fun _ => n ≠ 9 with
              | some [] => killEach fuel n rest status
              | some action => do
                  runText fuel false action 1
                  killEach fuel n rest status
              | none => throw (.signal target n)
          else if p.pending.any fun j => (j.pid : Int) = pid then do
            modifyProcess fun p => { p with
              pending := p.pending.filter fun j => (j.pid : Int) ≠ pid
              finished := (pid.toNat, 128 + n) :: p.finished
              unheard := pid.toNat :: p.unheard }
            killEach fuel n rest status
          else do
            report "No such process\n".toList
            killEach fuel n rest 1

/-- Carries out a command built into the shell, which error texts name. -/
def builtin : Nat → String → List Bytes → Sh Unit
  | 0, _, _ => hang
  | fuel + 1, name, args =>
      if name = "command" then commandBuiltin fuel args
      else under name.toList (ownBuiltin fuel name args)

/-- Carries out `command`, which passes functions over. -/
def commandBuiltin : Nat → List Bytes → Sh Unit
  | 0, _ => hang
  | fuel + 1, args => do
      match args with
      | ['-', 'v'] :: n :: _ => do
          let s := String.ofList n
          if builtins.contains s || (Utility.within.lookup s).isSome || reserved.contains s ||
              ((← process).functions.lookup n).isSome then
            put (n ++ ['\n'])
            setStatus 0
          else if isInstalled s then
            put ("/usr/bin/".toList ++ n ++ ['\n'])
            setStatus 0
          else setStatus 127
      | ['-', 'v'] :: [] => setStatus 0
      | ['-', 'V'] :: n :: _ => builtin fuel "type" [n]
      | ['-', 'p'] :: rest => commandBuiltin fuel rest
      | ['-', '-'] :: rest => commandBuiltin fuel rest
      | ('-' :: c :: _) :: _ => do
          under "command".toList (report ("Illegal option -".toList ++ [c]))
          setStatus 2
      | n :: rest =>
          if n = "exec".toList then execBuiltin fuel [] rest []
          else if builtins.contains (String.ofList n) then builtin fuel (String.ofList n) rest
          else program fuel n rest
      | [] => setStatus 0

/-- Carries out a function of the shell. -/
def ownBuiltin : Nat → String → List Bytes → Sh Unit
  | 0, _, _ => hang
  | fuel + 1, name, args => do
      match name with
      | "eval" => do
          let text := (args.intersperse [' ']).flatten
          setStatus 0
          let line := (← process).line
          runText fuel false text 1
          modifyProcess fun p => { p with line := line }
      | "." =>
          match args with
          | [] => setStatus 0
          | file :: _ => do
              if !file.contains '/' then refuse (file ++ ": not found".toList)
              match ← readPath file with
              | .ok (content, _) => do
                  setStatus 0
                  let line := (← process).line
                  modifyProcess fun p => { p with doing := file }
                  match ← attempt (runText fuel false content 1) with
                  | .error (.leave n) => setStatus n
                  | .error e => throw e
                  | .ok () => pure ()
                  modifyProcess fun p => { p with line := line }
              | .error _ => refuse ("cannot open ".toList ++ file ++ ": No such file".toList)
      | "wait" => do
          match args.find? fun a => (number? a).isNone with
          | some a => do
              report (match a with
                | '-' :: c :: _ => "Illegal option -".toList ++ [c]
                | ['%'] => "No current job".toList
                | '%' :: _ => "No such job: ".toList ++ a
                | a => "Illegal number: ".toList ++ a)
              setStatus 2
          | none => setStatus (← waitFor fuel (args.filterMap number?))
      | "kill" => setStatus (← killBuiltin fuel args)
      | _ => simpleBuiltin name args

end

end Shell
end Trainer
