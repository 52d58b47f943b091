import Trainer.Shell.Utility.TextTools

/-!
# The stream editor

`sed`: a script of instructions with addresses is carried out on every line of the input.  The
line under work is the pattern space; a second text, the hold space, is kept between lines.
-/

namespace Trainer
namespace Shell
namespace Utility

open Sh

/-! ## Scripts -/

/-- A line or a group of lines. -/
inductive Address where
  | line (n : Nat)
  /-- Every `step`-th line from a line on. -/
  | every (first step : Nat)
  | last
  | regex (r : Search.Re) (fold : Bool)
  /-- So many lines behind the first one of a range. -/
  | behind (n : Nat)
deriving Repr

/-- A piece of a replacement. -/
inductive Replacement where
  | char (c : Char)
  | group (n : Nat)
  /-- From here on, or for the next character only, letters change their case. -/
  | case (upper next : Bool)
  | caseEnd
deriving Repr

/-- What an instruction does. -/
inductive Edition where
  | substitute (r : Search.Re) (by_ : List Replacement) (every print fold : Bool) (nth : Nat)
  | transliterate (a b : Bytes)
  | delete
  | deleteFirst
  | print
  | printFirst
  | next
  | appendNext
  | hold (add : Bool)
  | fetch (add : Bool)
  | exchange
  | quit (status : Nat) (silent : Bool)
  | number
  | append (text : Bytes)
  | insert (text : Bytes)
  | change (text : Bytes)
  | label (name : Bytes)
  /-- Goes to a label, or to the end of the script; `tested` only after a substitution. -/
  | branch (name : Bytes) (tested : Bool)
  | opening
  | closing
deriving Repr

/-- An edition with its addresses. -/
structure Instruction where
  start : Option Address
  stop : Option Address
  negated : Bool
  edition : Edition
deriving Repr

/-! ## Reading -/

/-- A mistake in a script: what is left to read where it was noticed, and its wording. -/
abbrev ScriptMistake := Bytes × String

/-- Takes what is left of a bracket expression; `kind` is the mark of a class that is open in it. -/
def takeBracket : Option Char → Bytes → Option (Bytes × Bytes)
  | _, [] => none
  | none, ']' :: rest => some ([']'], rest)
  | none, '\\' :: 'n' :: rest => (takeBracket none rest).map fun x => ('\n' :: x.1, x.2)
  | none, '\\' :: 't' :: rest => (takeBracket none rest).map fun x => ('\t' :: x.1, x.2)
  | none, '[' :: c :: rest =>
      let kind := if c = ':' ∨ c = '.' ∨ c = '=' then some c else none
      -- A mark right behind the bracket opens a class; any other character counts as itself.
      match kind with
      | some _ => (takeBracket kind rest).map fun x => ('[' :: c :: x.1, x.2)
      | none => (takeBracket none (c :: rest)).map fun x => ('[' :: x.1, x.2)
  | some k, c :: ']' :: rest =>
      if c = k then (takeBracket none rest).map fun x => (c :: ']' :: x.1, x.2)
      else (takeBracket (some k) (']' :: rest)).map fun x => (c :: x.1, x.2)
  | kind, c :: rest => (takeBracket kind rest).map fun x => (c :: x.1, x.2)
termination_by _ cs => cs.length

/-- Takes a bracket expression behind its opening; a closing bracket in front stands for itself. -/
def takeChoice (cs : Bytes) : Option (Bytes × Bytes) :=
  let (front, cs) :=
    match cs with
    | '^' :: ']' :: rest => (['^', ']'], rest)
    | '^' :: rest => (['^'], rest)
    | ']' :: rest => ([']'], rest)
    | cs => ([], cs)
  (takeBracket none cs).map fun x => (front ++ x.1, x.2)

/--
Takes text up to a delimiter that is not escaped; an escaped delimiter loses its backslash.  In a
regular expression a delimiter within brackets is one of their characters.
-/
def takeDelimited (isRegex : Bool) (delimiter : Char) : Nat → Bytes → Option (Bytes × Bytes)
  | 0, _ => none
  | _ + 1, [] => none
  | fuel + 1, '\\' :: c :: rest =>
      (takeDelimited isRegex delimiter fuel rest).map fun x =>
        (if c = delimiter then c :: x.1 else '\\' :: c :: x.1, x.2)
  | fuel + 1, c :: rest =>
      if c = delimiter then some ([], rest)
      else if isRegex ∧ c = '[' then
        (takeChoice rest).bind fun choice =>
          (takeDelimited isRegex delimiter fuel choice.2).map fun x => (c :: choice.1 ++ x.1, x.2)
      else (takeDelimited isRegex delimiter fuel rest).map fun x => (c :: x.1, x.2)

/-- Takes two texts, each up to a delimiter; the first one may be a regular expression. -/
def takeTwo (isRegex : Bool) (delimiter : Char) (cs : Bytes) : Option (Bytes × Bytes × Bytes) := do
  let (a, cs) ← takeDelimited isRegex delimiter (cs.length + 1) cs
  let (b, cs) ← takeDelimited false delimiter (cs.length + 1) cs
  return (a, b, cs)

/-- Reads the text that replaces a match. -/
def replacementOf : Nat → Bytes → List Replacement
  | 0, _ => []
  | _ + 1, [] => []
  | fuel + 1, '\\' :: c :: rest =>
      (match c with
        | 'n' => .char '\n'
        | 't' => .char '\t'
        | 'U' => .case true false
        | 'L' => .case false false
        | 'u' => .case true true
        | 'l' => .case false true
        | 'E' => .caseEnd
        | c => if c.isDigit then .group (c.toNat - 48) else .char c) :: replacementOf fuel rest
  | fuel + 1, '&' :: rest => .group 0 :: replacementOf fuel rest
  | fuel + 1, c :: rest => .char c :: replacementOf fuel rest

/-- Reads an address if one comes next. -/
def addressOf (extended : Bool) (cs : Bytes) :
    Except ScriptMistake (Option Address × Bytes) :=
  let regex := fun (delimiter : Char) (rest : Bytes) =>
    match takeDelimited true delimiter (rest.length + 1) rest with
    | none => .error ([], "unterminated address regex")
    | some (text, rest) =>
        match Search.parse? extended text with
        | none => .error (rest, "Invalid regular expression")
        | some r =>
            match rest with
            | 'I' :: rest => .ok (some (.regex r true), rest)
            | rest => .ok (some (.regex r false), rest)
  match cs with
  | '$' :: rest => .ok (some .last, rest)
  | '/' :: rest => regex '/' rest
  | '\\' :: d :: rest => regex d rest
  | '+' :: rest =>
      let ds := rest.takeWhile Char.isDigit
      .ok (some (.behind (Chars.digitsValue ds)), rest.drop ds.length)
  | cs =>
      let ds := cs.takeWhile Char.isDigit
      if ds.isEmpty then .ok (none, cs)
      else
        match cs.drop ds.length with
        | '~' :: rest =>
            let step := rest.takeWhile Char.isDigit
            .ok (some (.every (Chars.digitsValue ds) (Chars.digitsValue step)),
              rest.drop step.length)
        | rest => .ok (some (.line (Chars.digitsValue ds)), rest)

/-- Reads the text of an instruction that adds a line; it runs to the end of the script's line. -/
def textOf (cs : Bytes) : Bytes × Bytes :=
  let cs := cs.dropWhile (· == ' ')
  let cs :=
    match cs with
    | '\\' :: '\n' :: rest => rest
    | '\\' :: rest => rest
    | cs => cs
  let rec take : Bytes → Bytes × Bytes
    | [] => ([], [])
    | '\n' :: rest => ([], rest)
    | '\\' :: c :: rest =>
        let (t, rest) := take rest
        (c :: t, rest)
    | c :: rest =>
        let (t, rest) := take rest
        (c :: t, rest)
  take cs

/-- The characters that a text with escapes of `y` denotes. -/
def transliterationOf : Bytes → Bytes
  | '\\' :: 'n' :: rest => '\n' :: transliterationOf rest
  | '\\' :: '\\' :: rest => '\\' :: transliterationOf rest
  | c :: rest => c :: transliterationOf rest
  | [] => []

/-- Whether an instruction ends here. -/
def endsInstruction (cs : Bytes) : Bool :=
  match cs.dropWhile (· == ' ') with
  | [] => true
  | c :: _ => c == ';' || c == '\n' || c == '\x7d' || c == '#'

/-- Reads what an instruction does, behind its addresses. -/
def editionOf (extended : Bool) (cs : Bytes) : Except ScriptMistake (Edition × Bytes) :=
  let ended := fun (e : Edition) (rest : Bytes) =>
    if endsInstruction rest then .ok (e, rest)
    else .error ((rest.dropWhile (· == ' ')).drop 1, "extra characters after command")
  let label := fun (rest : Bytes) =>
    let rest := rest.dropWhile (· == ' ')
    let name := rest.takeWhile fun c => c != ';' && c != '\n' && c != '\x7d'
    ((name.reverse.dropWhile (· == ' ')).reverse, rest.drop name.length)
  let added := fun (make : Bytes → Edition) (rest : Bytes) =>
    if rest.isEmpty then .error ([], "expected \\ after \x60a', \x60c' or \x60i'")
    else
      let (text, rest) := textOf rest
      .ok (make text, rest)
  match cs with
  | [] => .error ([], "missing command")
  | c :: rest =>
      match c with
      | 'd' => ended .delete rest
      | 'D' => ended .deleteFirst rest
      | 'p' => ended .print rest
      | 'P' => ended .printFirst rest
      | 'n' => ended .next rest
      | 'N' => ended .appendNext rest
      | 'h' => ended (.hold false) rest
      | 'H' => ended (.hold true) rest
      | 'g' => ended (.fetch false) rest
      | 'G' => ended (.fetch true) rest
      | 'x' => ended .exchange rest
      | '=' => ended .number rest
      | 'q' =>
          let ds := (rest.dropWhile (· == ' ')).takeWhile Char.isDigit
          ended (.quit (Chars.digitsValue ds) false)
            (if ds.isEmpty then rest else (rest.dropWhile (· == ' ')).drop ds.length)
      | 'Q' => ended (.quit 0 true) rest
      | 'a' => added .append rest
      | 'i' => added .insert rest
      | 'c' => added .change rest
      | ':' =>
          let (name, rest) := label rest
          if name.isEmpty then .error (rest, "\":\" lacks a label") else .ok (.label name, rest)
      | 'b' =>
          let (name, rest) := label rest
          .ok (.branch name false, rest)
      | 't' =>
          let (name, rest) := label rest
          .ok (.branch name true, rest)
      | '\x7b' => .ok (.opening, rest)
      | '\x7d' => ended .closing rest
      | 'y' =>
          match rest with
          | [] => .error ([], "unterminated \x60y' command")
          | d :: rest =>
              match takeTwo false d rest with
              | none => .error ([], "unterminated \x60y' command")
              | some (a, b, rest) =>
                  let (a, b) := (transliterationOf a, transliterationOf b)
                  if a.length = b.length then ended (.transliterate a b) rest
                  else .error (rest, "strings for \x60y' command are different lengths")
      | 's' =>
          match rest with
          | [] => .error ([], "unterminated \x60s' command")
          | d :: rest =>
              match takeTwo true d rest with
              | none => .error ([], "unterminated \x60s' command")
              | some (pattern, by_, rest) =>
                  let flags := rest.takeWhile fun c =>
                    c.isDigit || c == 'g' || c == 'p' || c == 'I' || c == 'i'
                  let rest := rest.drop flags.length
                  let nth := Chars.digitsValue (flags.filter Char.isDigit)
                  match Search.parse? extended pattern with
                  | none => .error (rest, "Invalid regular expression")
                  | some r =>
                      if endsInstruction rest then
                        .ok (.substitute r (replacementOf (by_.length + 1) by_)
                          (flags.contains 'g') (flags.contains 'p')
                          (flags.contains 'I' || flags.contains 'i') (max nth 1), rest)
                      else .error (rest.drop 1, "unknown option to \x60s'")
      | c => .error (rest, "unknown command: \x60" ++ String.singleton c ++ "'")

def instructionsOf (extended : Bool) : Nat → Bytes → Except ScriptMistake (List Instruction)
  | 0, _ => .ok []
  | fuel + 1, cs => do
      let cs := cs.dropWhile fun c => c == ' ' || c == '\n' || c == ';' || c == '\t'
      match cs with
      | [] => return []
      | '#' :: rest => instructionsOf extended fuel (rest.dropWhile (· != '\n'))
      | cs =>
          let (start, cs) ← addressOf extended cs
          let (stop, cs) ←
            match start, cs with
            | some _, ',' :: rest =>
                match addressOf extended (rest.dropWhile (· == ' ')) with
                | .ok (none, rest) => .error (rest, "unexpected \x60,'")
                | outcome => outcome
            | _, cs => .ok (none, cs)
          let cs := cs.dropWhile (· == ' ')
          let (negated, cs) := match cs with
            | '!' :: rest => (true, rest.dropWhile (· == ' '))
            | cs => (false, cs)
          let (edition, rest) ← editionOf extended cs
          let more ← instructionsOf extended fuel rest
          return ⟨start, stop, negated, edition⟩ :: more

/-! ## Editing -/

def Address.fits (n : Nat) (isLast : Bool) (l : Bytes) : Address → Bool
  | .line m => m == n
  | .every first step =>
      if step = 0 then n == first else decide (first ≤ n) && (n - first) % step == 0
  | .last => isLast
  | .regex r fold => (Search.find fold r l 0).isSome
  | .behind _ => false

/-- Changes the case of letters: of the next one only, or of all; nothing for unchanged ones. -/
structure Casing where
  all : Option Bool
  next : Option Bool

/-- Text with the case of its letters changed, and how the text behind it is to be changed. -/
def Casing.apply (c : Casing) : Bytes → Bytes × Casing
  | [] => ([], c)
  | d :: rest =>
      let changed := match c.next.or c.all with
        | some true => d.toUpper
        | some false => d.toLower
        | none => d
      (changed :: (Casing.apply ⟨c.all, none⟩ rest).1, ⟨c.all, none⟩)

/-- The text of a replacement for a match. -/
def replacementText (l : Bytes) (start stop : Nat) (gs : Search.Groups) :
    Casing → List Replacement → Bytes
  | _, [] => []
  | casing, r :: rest =>
      let go := fun (text : Bytes) =>
        let (text, casing) := casing.apply text
        text ++ replacementText l start stop gs casing rest
      match r with
      | .char c => go [c]
      | .group 0 => go ((l.drop start).take (stop - start))
      | .group n =>
          match gs.lookup n with
          | some (i, j) => go ((l.drop i).take (j - i))
          | none => replacementText l start stop gs casing rest
      | .case upper true => replacementText l start stop gs { casing with next := some upper } rest
      | .case upper false => replacementText l start stop gs ⟨some upper, casing.next⟩ rest
      | .caseEnd => replacementText l start stop gs ⟨none, none⟩ rest

/-- Replaces matches in a line from a place on; `count` is the number of the next match. -/
def substituteFrom (r : Search.Re) (by_ : List Replacement) (every fold : Bool) (nth : Nat)
    (l : Bytes) : Nat → Nat → Nat → Option Nat → Bytes × Bool
  | 0, _, place, _ => (l.drop place, false)
  | fuel + 1, count, place, lastEnd =>
      match Search.find fold r l place with
      | none => (l.drop place, false)
      | some (a, b, gs) =>
          let skipped := (l.drop place).take (a - place)
          let emptyAfterMatch := a == b && lastEnd == some a
          let wanted := !emptyAfterMatch && (if every then nth ≤ count else count == nth)
          let here := if wanted then replacementText l a b gs ⟨none, none⟩ by_
            else (l.drop a).take (b - a)
          let count := if emptyAfterMatch then count else count + 1
          if wanted && !every then (skipped ++ here ++ l.drop b, true)
          else if a = b then
            if l.length ≤ b then (skipped ++ here, wanted)
            else
              let (rest, more) := substituteFrom r by_ every fold nth l fuel count (b + 1) (some b)
              (skipped ++ here ++ (l.drop b).take 1 ++ rest, wanted || more)
          else
            let (rest, more) := substituteFrom r by_ every fold nth l fuel count b (some b)
            (skipped ++ here ++ rest, wanted || more)

structure Editing where
  /-- The lines to come. -/
  lines : List Bytes
  /-- The number of the last line read. -/
  count : Nat
  space : Bytes
  held : Bytes
  /-- The output so far, last piece first. -/
  output : List Bytes
  /-- Whether the output lacks the end of its last line. -/
  owed : Bool
  /-- What follows the line, last text first. -/
  after : List Bytes
  /-- The open ranges: the place of the instruction and the line on which a counted one ends. -/
  ranges : List (Nat × Nat)
  /-- Whether a substitution has been made since the line was read. -/
  substituted : Bool
  status : Nat

/-- What goes on after an instruction. -/
inductive Continuation where
  | at (place : Nat)
  /-- The script is at its end. -/
  | finish
  /-- The next line is taken; nothing is written. -/
  | skip
  /-- The script starts again on what is left. -/
  | again
  | stop (silent : Bool)

namespace Editing

/-- Writes a text and the end of its line, which an incomplete last line does not have. -/
def write (complete : Bool) (e : Editing) (text : Bytes) : Editing :=
  { e with
    output := text :: (if e.owed then ['\n'] :: e.output else e.output)
    owed := true } |> fun e =>
      if complete then { e with output := ['\n'] :: e.output, owed := false } else e

def writeSpace (ended : Bool) (e : Editing) (text : Bytes) : Editing :=
  e.write (ended || !e.lines.isEmpty) text

/-- Writes what was to follow the line. -/
def flush (e : Editing) : Editing :=
  { e.after.reverse.foldl (write true) e with after := [] }

/-- Whether an instruction applies to the line, and the ranges that are open after it. -/
def selects (e : Editing) (place : Nat) (i : Instruction) : Bool × List (Nat × Nat) :=
  let isLast := e.lines.isEmpty
  let fits := fun a : Address => a.fits e.count isLast e.space
  match i.start, i.stop with
  | none, _ => (true, e.ranges)
  | some a, none => (fits a, e.ranges)
  | some a, some b =>
      let others := e.ranges.filter (·.1 != place)
      match e.ranges.lookup place with
      | some limit =>
          let closes := match b with
            | .line m => decide (m ≤ e.count)
            | .behind _ => decide (limit ≤ e.count)
            | b => fits b
          let inside := match b with
            | .line m => decide (e.count ≤ m) || fits a
            | _ => true
          (inside, if closes then others else e.ranges)
      | none =>
          if fits a then
            let single := match b with
              | .line m => decide (m ≤ e.count)
              | .behind k => k == 0
              | _ => false
            let limit := match b with
              | .behind k => e.count + k
              | _ => 0
            (true, if single then others else (place, limit) :: others)
          else (false, e.ranges)

def blockEnd (script : List Instruction) : Nat → Nat → Nat → Nat
  | 0, _, place => place
  | fuel + 1, depth, place =>
      match script[place]? with
      | none => place
      | some i =>
          match i.edition with
          | .opening => blockEnd script fuel (depth + 1) (place + 1)
          | .closing => if depth = 0 then place + 1 else blockEnd script fuel (depth - 1) (place + 1)
          | _ => blockEnd script fuel depth (place + 1)

def labelPlace (script : List Instruction) (name : Bytes) : Nat :=
  if name.isEmpty then script.length
  else
    (script.findIdx? fun i => match i.edition with
      | .label n => n == name
      | _ => false).getD script.length

/-- Takes the next line into the pattern space. -/
def takeLine (e : Editing) (line : Bytes) (rest : List Bytes) : Editing :=
  { e with lines := rest, count := e.count + 1, space := line }

def apply (script : List Instruction) (quiet ended : Bool) (e : Editing) (place : Nat) :
    Edition → Editing × Continuation
  | .delete => (e, .skip)
  | .deleteFirst =>
      if e.space.contains '\n' then
        ({ e with space := (e.space.dropWhile (· != '\n')).drop 1 }, .again)
      else (e, .skip)
  | .print => (e.writeSpace ended e.space, .at (place + 1))
  | .printFirst => (e.write true (e.space.takeWhile (· != '\n')), .at (place + 1))
  | .next =>
      match e.lines with
      | [] => (e, .stop false)
      | l :: rest =>
          let e := if quiet then e else e.writeSpace ended e.space
          (e.flush.takeLine l rest, .at (place + 1))
  | .appendNext =>
      match e.lines with
      | [] => (e, .stop false)
      | l :: rest =>
          let e := e.flush
          ({ e.takeLine l rest with space := e.space ++ '\n' :: l }, .at (place + 1))
  | .hold add =>
      ({ e with held := if add then e.held ++ '\n' :: e.space else e.space }, .at (place + 1))
  | .fetch add =>
      ({ e with space := if add then e.space ++ '\n' :: e.held else e.held }, .at (place + 1))
  | .exchange => ({ e with space := e.held, held := e.space }, .at (place + 1))
  | .quit status silent => ({ e with status := status }, .stop silent)
  | .number => (e.write true (showNat e.count), .at (place + 1))
  | .transliterate a b =>
      ({ e with space := e.space.map fun c =>
          if a.contains c then (b[a.idxOf c]?).getD c else c }, .at (place + 1))
  | .append text => ({ e with after := text :: e.after }, .at (place + 1))
  | .insert text => (e.write true text, .at (place + 1))
  | .change text =>
      let inRange := (script[place]?).any fun i => i.stop.isSome && !i.negated
      ((if inRange && (e.ranges.lookup place).isSome then e else e.write true text), .skip)
  | .label _ => (e, .at (place + 1))
  | .branch name tested =>
      if tested && !e.substituted then (e, .at (place + 1))
      else
        ({ e with substituted := if tested then false else e.substituted },
          .at (labelPlace script name))
  | .opening => (e, .at (place + 1))
  | .closing => (e, .at (place + 1))
  | .substitute r by_ every print fold nth =>
      let (space, changed) :=
        substituteFrom r by_ every fold nth e.space (e.space.length + 2) 1 0 none
      if changed then
        let e := { e with space := space, substituted := true }
        (if print then e.writeSpace ended e.space else e, .at (place + 1))
      else (e, .at (place + 1))

/-- Carries out the script from a place on, line after line. -/
def run (script : List Instruction) (quiet ended : Bool) : Nat → Nat → Editing → Editing
  | 0, _, e => e
  | fuel + 1, place, e =>
      let (e, next) :=
        match script[place]? with
        | none => (e, Continuation.finish)
        | some i =>
            let (selected, ranges) := e.selects place i
            let e := { e with ranges := ranges }
            if selected != i.negated then apply script quiet ended e place i.edition
            else
              match i.edition with
              | .opening => (e, .at (blockEnd script script.length 0 (place + 1)))
              | _ => (e, .at (place + 1))
      let written := fun e : Editing =>
        (if quiet then e else e.writeSpace ended e.space).flush
      let nextLine := fun e : Editing =>
        match e.lines with
        | [] => e
        | l :: rest => run script quiet ended fuel 0 { e.takeLine l rest with substituted := false }
      match next with
      | .at p => run script quiet ended fuel p e
      | .finish => nextLine (written e)
      | .skip => nextLine e.flush
      | .again => run script quiet ended fuel 0 e.flush
      | .stop silent => if silent then e.flush else written e

end Editing

/-- Edits lines by a script; `ended` says whether the last one has an end. -/
def editLines (quiet ended : Bool) (script : List Instruction) (lines : List Bytes) :
    Bytes × Nat :=
  match lines with
  | [] => ([], 0)
  | l :: rest =>
      let start : Editing := ⟨rest, 1, l, [], [], false, [], [], false, 0⟩
      let fuel := (lines.length + 2) * (script.length + 2) * 64
      let e := Editing.run script quiet ended fuel 0 start
      (e.output.reverse.flatten, e.status)

def sed : Procedure := fun args => do
  let o := Options.parse ['e'] args
  let extended := o.has 'E' || o.has 'r'
  let scripts := ((o.values.filter fun x => x.1 == 'e').map Prod.snd).reverse
  let (scripts, files) :=
    match scripts, o.rest with
    | [], s :: files => ([s], files)
    | ss, files => (ss, files)
  if scripts.isEmpty then
    complainText "Usage: sed [OPTION]... \x7bscript-only-if-no-other-script\x7d [input-file]..."
    return 1
  let script := (scripts.intersperse ['\n']).flatten
  match instructionsOf extended (script.length + 2) script with
  | .error (rest, reason) =>
      complain ("sed: -e expression #1, char ".toList ++ showNat (script.length - rest.length) ++
        (": " ++ reason).toList)
      return 1
  | .ok script =>
      let quiet := o.has 'n'
      if o.has 'i' then
        let mut status := 0
        for f in files do
          match ← readPath f with
          | .ok (content, _) =>
              let (ls, ended) := linesOf content
              let (text, code) := editLines quiet ended script ls
              if code ≠ 0 then status := code
              match (← tree).writeBytes (pathOf f) (packBytes text) with
              | .ok t => setTree t
              | .error e => complainOf "sed: " f e
          | .error e =>
              complainOf "sed: can't read " f e
              status := 2
        return status
      let (inputs, status) ← readFiles "sed: can't read " 2 files
      let pieces := inputs.map fun x => linesOf x.2
      let ended := match (pieces.filter fun x => !x.1.isEmpty).getLast? with
        | some x => x.2
        | none => true
      let (text, code) := editLines quiet ended script (pieces.flatMap Prod.fst)
      put text
      return if code ≠ 0 then code else status

end Utility
end Shell
end Trainer
