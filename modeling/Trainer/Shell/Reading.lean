import Trainer.Shell.Command

/-!
# Reading command lines

From the text of a script to its commands.  A script is read one line of commands after the other
(`readLine`), because the lines before a mistake are still carried out.
-/

namespace Trainer
namespace Shell

/-! ## Mistakes -/

inductive Mistake where
  | unterminated
  | openBackquote
  | openBrace
  | unexpected (token : String) (expected : Option String)
  | missingParentheses
  | badSubstitution
  | badName
  | badVariable
deriving DecidableEq, Repr

def Mistake.message : Mistake → String
  | .unterminated => "Syntax error: Unterminated quoted string"
  | .openBackquote => "Syntax error: EOF in backquote substitution"
  | .openBrace => "Syntax error: Missing '\x7d'"
  | .unexpected token none => "Syntax error: " ++ token ++ " unexpected"
  | .unexpected token (some expected) =>
      "Syntax error: " ++ token ++ " unexpected (expecting " ++ expected ++ ")"
  | .missingParentheses => "Syntax error: Missing '))'"
  | .badSubstitution => "Bad substitution"
  | .badName => "Syntax error: Bad function name"
  | .badVariable => "Syntax error: Bad for loop variable"

/-! ## The reader -/

/-- The text still to be read, and the number of its first line. -/
structure Reader where
  rest : Bytes
  line : Nat
  /-- Lines taken out of the text behind the current one. -/
  taken : Nat
deriving Repr

/-- An action on the text still to be read; a mistake comes with the line where it was noticed. -/
abbrev Read := StateT Reader (Except (Mistake × Nat))

namespace Read

def rest : Read Bytes := do return (← get).rest

def setRest (cs : Bytes) : Read Unit := modify fun r => { r with rest := cs }

def peek : Read (Option Char) := do return (← get).rest.head?

/-- Takes one character. -/
def advance : Read Unit :=
  modify fun r =>
    match r.rest with
    | [] => r
    | '\n' :: cs => ⟨cs, r.line + 1 + r.taken, 0⟩
    | _ :: cs => { r with rest := cs }

def skip : Nat → Read Unit
  | 0 => pure ()
  | n + 1 => do
      advance
      skip n

/-- Takes a text if it comes next. -/
def accept (text : String) : Read Bool := do
  if text.toList.isPrefixOf (← rest) then
    skip text.length
    return true
  else return false

/-- Fails where the reader is. -/
def fail {α : Type} (m : Mistake) : Read α := do
  throw (m, (← get).line)

/-- Fails because the text has ended too early. -/
def failAtEnd {α : Type} (m : Mistake) : Read α := do
  let r ← get
  throw (m, r.line + r.taken + r.rest.count '\n')

end Read

/-- The characters that end a word. -/
def isMeta (c : Char) : Bool :=
  c == ' ' || c == '\t' || c == '\n' || c == ';' || c == '&' || c == '|' || c == '<' ||
    c == '>' || c == '(' || c == ')'

def isNameStart (c : Char) : Bool :=
  c.isAlpha || c == '_'

def isNameRest (c : Char) : Bool :=
  c.isAlphanum || c == '_'

def isName : Bytes → Bool
  | [] => false
  | c :: cs => isNameStart c && cs.all isNameRest

/-- Drops blanks, joined lines and a comment. -/
def skipBlanks : Nat → Read Unit
  | 0 => pure ()
  | fuel + 1 => do
      match ← Read.rest with
      | ' ' :: _ => do
          Read.advance
          skipBlanks fuel
      | '\t' :: _ => do
          Read.advance
          skipBlanks fuel
      | '\\' :: '\n' :: _ => do
          Read.skip 2
          skipBlanks fuel
      | '#' :: cs => Read.setRest (cs.dropWhile (· != '\n'))
      | _ => pure ()

/-- Drops blanks, comments and line ends. -/
def skipLines : Nat → Read Unit
  | 0 => pure ()
  | fuel + 1 => do
      skipBlanks fuel
      if (← Read.peek) = some '\n' then
        Read.advance
        skipLines fuel

/-! ## Words -/

/--
Takes text up to a closing brace at the same level, which goes; quotes hide characters.  Single
quotes are ordinary characters when the whole expansion stands `within` double quotes.
-/
def scanBraced (within : Bool) : Nat → Nat → Bool → Bytes → Read Bytes
  | 0, _, _, _ => Read.failAtEnd .openBrace
  | fuel + 1, depth, quoted, acc => do
      match ← Read.rest with
      | [] => Read.failAtEnd (if within then .unterminated else .openBrace)
      | '\\' :: c :: _ => do
          Read.skip 2
          scanBraced within fuel depth quoted (c :: '\\' :: acc)
      | '\'' :: cs => do
          if quoted || within then
            Read.advance
            scanBraced within fuel depth quoted ('\'' :: acc)
          else
            let inner := cs.takeWhile (· != '\'')
            Read.skip (inner.length + 2)
            scanBraced within fuel depth quoted ('\'' :: (inner.reverse ++ '\'' :: acc))
      | '"' :: _ => do
          Read.advance
          scanBraced within fuel depth (!quoted) ('"' :: acc)
      | c :: _ => do
          Read.advance
          if c = '\x7d' && !quoted then
            if depth = 0 then return acc.reverse
            else scanBraced within fuel (depth - 1) quoted (c :: acc)
          else if c = '\x7b' && !quoted then scanBraced within fuel (depth + 1) quoted (c :: acc)
          else scanBraced within fuel depth quoted (c :: acc)

/-- Takes text up to the end of an arithmetic expression, which goes. -/
def scanArithmetic : Nat → Nat → Bytes → Read Bytes
  | 0, _, _ => Read.failAtEnd .missingParentheses
  | fuel + 1, depth, acc => do
      match ← Read.rest with
      | [] => Read.failAtEnd .missingParentheses
      | ')' :: ')' :: _ =>
          if depth = 0 then do
            Read.skip 2
            return acc.reverse
          else do
            Read.advance
            scanArithmetic fuel (depth - 1) (')' :: acc)
      | c :: _ => do
          Read.advance
          let depth := if c = '(' then depth + 1 else if c = ')' then depth - 1 else depth
          scanArithmetic fuel depth (c :: acc)

/-- Takes the text of a command in back quotes; a backslash quotes `$`, a back quote and itself. -/
def scanBackquoted (quoted : Bool) : Nat → Bytes → Read Bytes
  | 0, _ => Read.failAtEnd .openBackquote
  | fuel + 1, acc => do
      match ← Read.rest with
      | [] => Read.failAtEnd .openBackquote
      | '\x60' :: _ => do
          Read.advance
          return acc.reverse
      | '\\' :: c :: _ => do
          Read.skip 2
          if c = '\x60' ∨ c = '\\' ∨ c = '$' ∨ (quoted ∧ c = '"') then
            scanBackquoted quoted fuel (c :: acc)
          else scanBackquoted quoted fuel (c :: '\\' :: acc)
      | c :: _ => do
          Read.advance
          scanBackquoted quoted fuel (c :: acc)

/-- Whether a character names a special parameter. -/
def isSpecial (c : Char) : Bool :=
  c == '@' || c == '*' || c == '#' || c == '?' || c == '-' || c == '$' || c == '!'

/-- Splits the name of a parameter off the text in braces. -/
def splitParam (cs : Bytes) : Bytes × Bytes :=
  match cs with
  | [] => ([], [])
  | c :: rest =>
      if isNameStart c then (c :: rest.takeWhile isNameRest, rest.dropWhile isNameRest)
      else if c.isDigit then (c :: rest.takeWhile Char.isDigit, rest.dropWhile Char.isDigit)
      else if isSpecial c then ([c], rest)
      else ([], cs)

/-- The use of a parameter that follows its name in braces. -/
def useOf : Bytes → ParamUse
  | [] => .plain
  | ':' :: '-' :: w => .fallback true w
  | ':' :: '=' :: w => .assign true w
  | ':' :: '?' :: w => .complain true w
  | ':' :: '+' :: w => .instead true w
  | '-' :: w => .fallback false w
  | '=' :: w => .assign false w
  | '?' :: w => .complain false w
  | '+' :: w => .instead false w
  | '#' :: '#' :: w => .dropStart true w
  | '#' :: w => .dropStart false w
  | '%' :: '%' :: w => .dropEnd true w
  | '%' :: w => .dropEnd false w
  | _ => .unknown

/-- What the text in braces asks of a parameter. -/
def paramOf (cs : Bytes) : Bytes × ParamUse :=
  let (name, rest) := splitParam cs
  let ordinary := (name, if name.isEmpty then .unknown else useOf rest)
  match cs, rest with
  | '#' :: more, _ :: _ =>
      let (inner, after) := splitParam more
      if !inner.isEmpty && after.isEmpty then (inner, .length) else ordinary
  | _, _ => ordinary

/-- The plain text of a word of unquoted characters. -/
def plainText : Word → Option Bytes
  | [] => some []
  | .char c false :: rest => (plainText rest).map (c :: ·)
  | _ :: _ => none

/-- A word as an assignment to a name. -/
def assignmentOf (w : Word) : Option (Bytes × Word) :=
  let start := w.takeWhile fun p => match p with
    | .char c false => c != '='
    | _ => false
  match plainText start, w.drop start.length with
  | some name, .char '=' false :: value => if isName name then some (name, value) else none
  | _, _ => none

/-- Splits lines off a text up to the line that ends it; gives the lines and what follows. -/
def takeBody (stripTabs : Bool) (delimiter : Bytes) : Nat → Bytes → Bytes × Nat × Bytes
  | 0, cs => ([], 0, cs)
  | fuel + 1, cs =>
      if cs.isEmpty then ([], 0, [])
      else
        let raw := cs.takeWhile (· != '\n')
        let rest := cs.drop (raw.length + 1)
        let line := if stripTabs then raw.dropWhile (· == '\t') else raw
        if line = delimiter then ([], 1, rest)
        else
          let (body, count, rest) := takeBody stripTabs delimiter fuel rest
          let ending := if raw.length = cs.length then [] else ['\n']
          (line ++ ending ++ body, count + 1, rest)

/-! ## Tokens -/

/-- The words that have a meaning of their own where a command may start. -/
def reserved : List String :=
  ["if", "then", "else", "elif", "fi", "do", "done", "while", "until", "for", "case", "esac",
    "\x7b", "\x7d", "!", "in"]

/-- The functions of the shell whose names cannot be given to others. -/
def specialBuiltins : List String :=
  [".", ":", "break", "continue", "eval", "exec", "exit", "export", "readonly", "return", "set",
    "shift", "times", "trap", "unset"]

/-- The unquoted text that comes next, up to a character that ends words. -/
def nextText : Read String := do
  return String.ofList ((← Read.rest).takeWhile fun c => !isMeta c)

/-- Takes a reserved word if it comes next. -/
def acceptWord (fuel : Nat) (w : String) : Read Bool := do
  skipBlanks fuel
  if (← nextText) = w then
    Read.skip w.length
    return true
  else return false

/-- The name of what comes next, for error texts; `keywords` says whether reserved words count. -/
def nextToken (fuel : Nat) (keywords : Bool) : Read String := do
  skipBlanks fuel
  match ← Read.rest with
  | [] => return "end of file"
  | '\n' :: _ => return "newline"
  | ';' :: ';' :: _ => return "\";;\""
  | '&' :: '&' :: _ => return "\"&&\""
  | '|' :: '|' :: _ => return "\"||\""
  | '<' :: _ => return "redirection"
  | '>' :: _ => return "redirection"
  | c :: _ => do
      if isMeta c then return "\"" ++ String.singleton c ++ "\""
      let text ← nextText
      if keywords && reserved.contains text then return "\"" ++ text ++ "\"" else return "word"

/-- Fails because of what comes next; a newline counts as read. -/
def unexpectedToken {α : Type} (fuel : Nat) (keywords : Bool) (expected : Option String) :
    Read α := do
  let token ← nextToken fuel keywords
  let r ← get
  throw (.unexpected token expected, if token = "newline" then r.line + 1 + r.taken else r.line)

/-- Fails because of what comes next where a command may start. -/
def unexpected {α : Type} (fuel : Nat) (expected : Option String) : Read α :=
  unexpectedToken fuel true expected

/-- A token as error texts name it. -/
def inToken (w : String) : Option String := some ("\"" ++ w ++ "\"")

/-- Takes a reserved word that has to come next. -/
def expectWord (fuel : Nat) (w : String) : Read Unit := do
  if !(← acceptWord fuel w) then unexpected fuel (inToken w)

/-- Whether the words that may end a list of commands come next. -/
def atListEnd (fuel : Nat) : Read Bool := do
  skipBlanks fuel
  match ← Read.rest with
  | [] => return true
  | ')' :: _ => return true
  | ';' :: ';' :: _ => return true
  | _ =>
      return ["then", "else", "elif", "fi", "do", "done", "esac", "\x7d"].contains (← nextText)

/-! ## Words and commands -/

mutual

/-- Reads what follows a dollar sign. -/
def readDollar : Nat → Bool → Read Part
  | 0, _ => Read.failAtEnd .unterminated
  | fuel + 1, quoted => do
      match ← Read.rest with
      | '(' :: '(' :: _ => do
          Read.skip 2
          return .arithmetic (← scanArithmetic fuel 0 []) quoted
      | '(' :: start => do
          let line := (← get).line
          Read.advance
          skipLines fuel
          if (← Read.peek) ≠ some ')' then
            let _ ← readList true fuel
            skipLines fuel
          if !(← Read.accept ")") then unexpected fuel (inToken ")")
          let after ← Read.rest
          return .output (start.take (start.length - after.length - 1)) line quoted
      | '\x7b' :: _ => do
          Read.advance
          let (name, use) := paramOf (← scanBraced quoted fuel 0 false [])
          return .param name use quoted
      | c :: cs =>
          if isNameStart c then do
            let name := c :: cs.takeWhile isNameRest
            Read.skip name.length
            return .param name .plain quoted
          else if c.isDigit || isSpecial c then do
            Read.advance
            return .param [c] .plain quoted
          else return .char '$' quoted
      | [] => return .char '$' quoted

/--
Reads text in which only `$`, back quotes and backslashes count, up to `stop` or the end; `plain`
drops double quotes from it.
-/
def readQuoted (stop : Option Char) (plain : Bool) : Nat → Word → Read Word
  | 0, acc => return acc.reverse
  | fuel + 1, acc => do
      match ← Read.rest with
      | [] => if stop.isSome then Read.failAtEnd .unterminated else return acc.reverse
      | '\\' :: '\n' :: _ => do
          Read.skip 2
          readQuoted stop plain fuel acc
      | '\\' :: c :: _ => do
          Read.skip 2
          if c = '$' ∨ c = '\x60' ∨ c = '\\' ∨ some c = stop ∨ (plain ∧ c = '"') ∨
              (plain ∧ c = '\x7d') then
            readQuoted stop plain fuel (.char c true :: acc)
          else readQuoted stop plain fuel (.char c true :: .char '\\' true :: acc)
      | '$' :: _ => do
          Read.advance
          readQuoted stop plain fuel ((← readDollar fuel true) :: acc)
      | '\x60' :: _ => do
          let line := (← get).line
          Read.advance
          readQuoted stop plain fuel (.output (← scanBackquoted true fuel []) line true :: acc)
      | c :: _ => do
          Read.advance
          if some c = stop then return acc.reverse
          else if plain && c == '"' then readQuoted stop plain fuel acc
          else readQuoted stop plain fuel (.char c true :: acc)

/-- Reads a word; `whole` lets it run to the end of the text, whatever characters it has. -/
def readWord (whole : Bool) : Nat → Word → Read Word
  | 0, acc => return acc.reverse
  | fuel + 1, acc => do
      match ← Read.rest with
      | [] => return acc.reverse
      | '\\' :: '\n' :: _ => do
          Read.skip 2
          readWord whole fuel acc
      | '\\' :: c :: _ => do
          Read.skip 2
          readWord whole fuel (.char c true :: acc)
      | '\'' :: cs => do
          let inner := cs.takeWhile (· != '\'')
          if inner.length = cs.length then Read.failAtEnd .unterminated
          Read.skip (inner.length + 2)
          readWord whole fuel ((inner.map (Part.char · true)).reverse ++ .quotes :: acc)
      | '"' :: _ => do
          Read.advance
          let inner ← readQuoted (some '"') false fuel []
          readWord whole fuel (inner.reverse ++ .quotes :: acc)
      | '$' :: _ => do
          Read.advance
          readWord whole fuel ((← readDollar fuel false) :: acc)
      | '\x60' :: _ => do
          let line := (← get).line
          Read.advance
          readWord whole fuel (.output (← scanBackquoted false fuel []) line false :: acc)
      | c :: _ =>
          if !whole && isMeta c then return acc.reverse
          else do
            Read.advance
            readWord whole fuel (.char c false :: acc)

/-- Reads the delimiter and takes the text out of the lines that follow. -/
def readHereText (stripTabs : Bool) : Nat → Read Word
  | 0 => Read.failAtEnd .unterminated
  | fuel + 1 => do
      let delimiter ← readTarget fuel
      let quoted := delimiter.any fun p => match p with
        | .quotes => true
        | .char _ q => q
        | _ => false
      let text := delimiter.filterMap fun p => match p with
        | .char c _ => some c
        | _ => none
      let rest ← Read.rest
      let line := rest.takeWhile (· != '\n')
      let (body, count, after) := takeBody stripTabs text (rest.length + 1)
        (rest.drop (line.length + 1))
      if quoted then
        modify fun r => { r with rest := line ++ '\n' :: after, taken := r.taken + count }
        return body.map (Part.char · true)
      else
        let here ← get
        set (Reader.mk body (here.line + 1 + here.taken) 0)
        let word ← readQuoted none false fuel []
        set { here with rest := line ++ '\n' :: after, taken := here.taken + count }
        return word

def readTarget : Nat → Read Word
  | 0 => Read.failAtEnd .unterminated
  | fuel + 1 => do
      skipBlanks fuel
      let w ← readWord false fuel []
      if w.isEmpty then unexpectedToken fuel false none else return w

def readRedirect : Nat → Read (Option Redirect)
  | 0 => return none
  | fuel + 1 => do
      let cs ← Read.rest
      let digits := (cs.take 1).takeWhile Char.isDigit
      let number := Chars.digitsValue digits
      let after := cs.drop digits.length
      let fd := fun usual : Nat => if digits.isEmpty then usual else number
      let make := fun (usual skipped : Nat) (d : Word → Direction) => do
        Read.skip (digits.length + skipped)
        let w ← readTarget fuel
        return some (Redirect.mk (fd usual) (d w))
      match after with
      | '<' :: '<' :: '-' :: _ => do
          Read.skip (digits.length + 3)
          return some ⟨fd 0, .text (← readHereText true fuel)⟩
      | '<' :: '<' :: _ => do
          Read.skip (digits.length + 2)
          return some ⟨fd 0, .text (← readHereText false fuel)⟩
      | '<' :: '&' :: _ => make 0 2 .duplicate
      | '<' :: '>' :: _ => make 0 2 .both
      | '<' :: _ => make 0 1 .input
      | '>' :: '>' :: _ => make 1 2 .append
      | '>' :: '&' :: _ => make 1 2 .duplicate
      | '>' :: '|' :: _ => make 1 2 .overwrite
      | '>' :: _ => make 1 1 .output
      | _ => return none

/-- Reads the redirections behind a compound command. -/
def readRedirects : Nat → List Redirect → Read (List Redirect)
  | 0, acc => return acc.reverse
  | fuel + 1, acc => do
      skipBlanks fuel
      match ← readRedirect fuel with
      | some r => readRedirects fuel (r :: acc)
      | none => return acc.reverse

def readWords : Nat → List Word → Read (List Word)
  | 0, acc => return acc.reverse
  | fuel + 1, acc => do
      skipBlanks fuel
      match ← Read.peek with
      | none => return acc.reverse
      | some c =>
          if isMeta c then return acc.reverse
          else readWords fuel ((← readWord false fuel []) :: acc)

/-- Reads the patterns of a case, up to the parenthesis that ends them, which goes. -/
def readPatterns : Nat → List Word → Read (List Word)
  | 0, acc => return acc.reverse
  | fuel + 1, acc => do
      skipBlanks fuel
      let w ← readWord false fuel []
      skipBlanks fuel
      if ← Read.accept "|" then readPatterns fuel (w :: acc)
      else if ← Read.accept ")" then return (w :: acc).reverse
      else unexpectedToken fuel false (inToken ")")

/-- Reads commands up to a word that ends a list; `multi` lets the list go over lines. -/
def readList (multi : Bool) : Nat → Read Command
  | 0 => Read.failAtEnd .unterminated
  | fuel + 1 => do
      if multi then skipLines fuel
      if multi && (← Read.rest).isEmpty then return .nothing
      if ← atListEnd fuel then unexpected fuel none
      readRest multi fuel (← readAndOr fuel)

/-- Goes on behind a command of a list. -/
def readRest (multi : Bool) : Nat → Command → Read Command
  | 0, _ => Read.failAtEnd .unterminated
  | fuel + 1, first => do
      skipBlanks fuel
      let (first, separated) ←
        match ← Read.rest with
        | ';' :: ';' :: _ => pure (first, false)
        | ';' :: _ => do
            Read.advance
            pure (first, true)
        | '&' :: _ => do
            Read.advance
            pure (Command.background first, true)
        | '\n' :: _ => pure (first, multi)
        | _ => pure (first, false)
      if !separated then return first
      if multi then skipLines fuel
      skipBlanks fuel
      if (← atListEnd fuel) || (← Read.peek) = some '\n' then return first
      return .sequence first (← readRest multi fuel (← readAndOr fuel))

/-- Reads pipelines joined by `&&` and `||`. -/
def readAndOr : Nat → Read Command
  | 0 => Read.failAtEnd .unterminated
  | fuel + 1 => do readAndOrRest fuel (← readPipeline fuel)

/-- Goes on behind a pipeline. -/
def readAndOrRest : Nat → Command → Read Command
  | 0, _ => Read.failAtEnd .unterminated
  | fuel + 1, first => do
      skipBlanks fuel
      if ← Read.accept "&&" then
        skipLines fuel
        readAndOrRest fuel (.both first (← readPipeline fuel))
      else if ← Read.accept "||" then
        skipLines fuel
        readAndOrRest fuel (.either first (← readPipeline fuel))
      else return first

def readPipeline : Nat → Read Command
  | 0 => Read.failAtEnd .unterminated
  | fuel + 1 => do
      let negated ← acceptWord fuel "!"
      let first ← readCommand fuel
      let parts ← readPipes fuel [first]
      match negated, parts with
      | false, [c] => return c
      | _, parts => return .pipeline negated parts

/-- Goes on behind a command of a pipeline; the commands are in reverse. -/
def readPipes : Nat → List Command → Read (List Command)
  | 0, _ => Read.failAtEnd .unterminated
  | fuel + 1, acc => do
      skipBlanks fuel
      match ← Read.rest with
      | '|' :: '|' :: _ => return acc.reverse
      | '|' :: _ => do
          Read.advance
          skipLines fuel
          readPipes fuel ((← readCommand fuel) :: acc)
      | _ => return acc.reverse

def readCommand : Nat → Read Command
  | 0 => Read.failAtEnd .unterminated
  | fuel + 1 => do
      skipBlanks fuel
      if ← Read.accept "(" then
        let inner ← readList true fuel
        skipLines fuel
        if !(← Read.accept ")") then unexpected fuel (inToken ")")
        return .subshell inner (← readRedirects fuel [])
      match ← nextText with
      | "\x7b" => do
          Read.advance
          let inner ← readList true fuel
          skipLines fuel
          expectWord fuel "\x7d"
          return .group inner (← readRedirects fuel [])
      | "if" => do
          Read.skip 2
          readBranch fuel
      | "while" => do
          Read.skip 5
          readLoop false fuel
      | "until" => do
          Read.skip 5
          readLoop true fuel
      | "for" => do
          Read.skip 3
          readEach fuel
      | "case" => do
          Read.skip 4
          skipBlanks fuel
          let subject ← readWord false fuel []
          if subject.isEmpty then unexpectedToken fuel false (some "word")
          skipLines fuel
          expectWord fuel "in"
          let cases ← readCases fuel []
          return .select subject cases (← readRedirects fuel [])
      | text =>
          if reserved.contains text then unexpected fuel none
          else readSimple fuel (← get).line [] [] []

def readBranch : Nat → Read Command
  | 0 => Read.failAtEnd .unterminated
  | fuel + 1 => do
      let test ← readList true fuel
      skipLines fuel
      expectWord fuel "then"
      let yes ← readList true fuel
      skipLines fuel
      if ← acceptWord fuel "elif" then
        match ← readBranch fuel with
        | .branch t y n redirects => return .branch test yes (.branch t y n []) redirects
        | other => return other
      let no ← if ← acceptWord fuel "else" then readList true fuel else pure .nothing
      skipLines fuel
      expectWord fuel "fi"
      return .branch test yes no (← readRedirects fuel [])

def readLoop (negated : Bool) : Nat → Read Command
  | 0 => Read.failAtEnd .unterminated
  | fuel + 1 => do
      let test ← readList true fuel
      skipLines fuel
      expectWord fuel "do"
      let body ← readList true fuel
      skipLines fuel
      expectWord fuel "done"
      return .loop negated test body (← readRedirects fuel [])

def readEach : Nat → Read Command
  | 0 => Read.failAtEnd .unterminated
  | fuel + 1 => do
      skipBlanks fuel
      let name := (plainText (← readWord false fuel [])).getD []
      if !isName name then
        if (← Read.peek) = some '\n' then Read.advance
        Read.fail .badVariable
      skipLines fuel
      let words ←
        if ← acceptWord fuel "in" then do
          let words ← readWords fuel []
          skipBlanks fuel
          let separated ← Read.accept ";"
          if !separated && (← Read.peek) ≠ some '\n' then unexpected fuel none
          pure (some words)
        else do
          skipBlanks fuel
          let _ ← Read.accept ";"
          pure none
      skipLines fuel
      expectWord fuel "do"
      let body ← readList true fuel
      skipLines fuel
      expectWord fuel "done"
      return .each name words body (← readRedirects fuel [])

/-- Reads cases up to `esac`; they are collected in reverse. -/
def readCases : Nat → List (List Word × Command) → Read (List (List Word × Command))
  | 0, _ => Read.failAtEnd .unterminated
  | fuel + 1, acc => do
      skipLines fuel
      if ← acceptWord fuel "esac" then return acc.reverse
      let _ ← Read.accept "("
      let patterns ← readPatterns fuel []
      skipLines fuel
      let body ← if ← atListEnd fuel then pure .nothing else readList true fuel
      skipLines fuel
      if ← Read.accept ";;" then readCases fuel ((patterns, body) :: acc)
      else if ← acceptWord fuel "esac" then return ((patterns, body) :: acc).reverse
      else unexpected fuel (inToken ";;")

/-- Reads the words, assignments and redirections of a simple command, collected in reverse. -/
def readSimple (fuel line : Nat) (assigned : List (Bytes × Word)) (words : List Word)
    (redirects : List Redirect) : Read Command :=
  match fuel with
  | 0 => Read.failAtEnd .unterminated
  | fuel + 1 => do
      skipBlanks fuel
      match ← readRedirect fuel with
      | some r => readSimple fuel line assigned words (r :: redirects)
      | none =>
          match ← Read.peek with
          | some '(' =>
              match words, assigned, redirects with
              | [w], [], [] => do
                  Read.advance
                  skipBlanks fuel
                  if !(← Read.accept ")") then unexpectedToken fuel false (inToken ")")
                  let name := (plainText w).getD []
                  if !isName name || specialBuiltins.contains (String.ofList name) then
                    Read.fail .badName
                  skipLines fuel
                  return .define name (← readCommand fuel)
              | _, _, _ => unexpected fuel none
          | next =>
              if next.any fun c => !isMeta c then
                let w ← readWord false fuel []
                match words, assignmentOf w with
                | [], some x => readSimple fuel line (x :: assigned) [] redirects
                | _, _ => readSimple fuel line assigned (w :: words) redirects
              else if words.isEmpty && assigned.isEmpty && redirects.isEmpty then
                unexpected fuel none
              else return .simple line assigned.reverse words.reverse redirects.reverse

end

/-- Reads one line of commands; nothing when only blanks are left. -/
def readLine (fuel : Nat) : Read (Option Command) := do
  skipLines fuel
  if (← Read.rest).isEmpty then return none
  let c ← readList false fuel
  skipBlanks fuel
  match ← Read.peek with
  | none => return some c
  | some '\n' => do
      Read.advance
      return some c
  | some _ => unexpected fuel none

/-- The reader at the start of a script, on a line of a text around it. -/
def Reader.start (text : Bytes) (line : Nat) : Reader := ⟨text, line, 0⟩

/-- More steps than reading a text takes. -/
def Reader.patience (r : Reader) : Nat := 20 * (r.rest.length + 10)

/-- The next line of commands of a script and the reader behind it. -/
def Reader.next (r : Reader) : Except (Mistake × Nat) (Option Command × Reader) :=
  readLine r.patience r

/-- A text as a word, as far as it has no mistake. -/
def wordOf (text : Bytes) : Except (Mistake × Nat) Word :=
  let r := Reader.start text 1
  (readWord true r.patience []).run' r

/-- A text as it would be read between double quotes, which it may hold for itself. -/
def quotedOf (text : Bytes) : Except (Mistake × Nat) Word :=
  let r := Reader.start text 1
  (readQuoted none true r.patience []).run' r

end Shell
end Trainer
