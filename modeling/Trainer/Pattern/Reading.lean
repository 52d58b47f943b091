import Trainer.Number
import Trainer.Pattern
import Trainer.Pattern.Named

/-!
# Reading patterns

The written form of regular expressions: literals and escapes, classes in brackets with set
operations, groups with flags, repetitions and conditions.  Look-around and references to groups
are not part of it.  `Pattern.parse` refuses what is not a pattern, and a pattern
whose machine would be larger than ten mebibytes.
-/

namespace Trainer
namespace Pattern

/-! ## Flags -/

structure Flags where
  ignoreCase : Bool
  multiLine : Bool
  dotAll : Bool
  /-- Whether lines may end in a carriage return. -/
  returns : Bool
  unicode : Bool
  /-- Whether blanks and comments are passed over. -/
  verbose : Bool
deriving DecidableEq, Repr

def Flags.usual : Flags := ⟨false, false, false, false, true, false⟩

def Flags.set? (f : Flags) (c : Char) (on : Bool) : Option Flags :=
  match c with
  | 'i' => some { f with ignoreCase := on }
  | 'm' => some { f with multiLine := on }
  | 's' => some { f with dotAll := on }
  | 'R' => some { f with returns := on }
  | 'u' => some { f with unicode := on }
  | 'x' => some { f with verbose := on }
  | 'U' => some f
  | _ => none

/-- Reads flags up to a colon or a closing parenthesis, which stays. -/
def readFlags (on : Bool) (seen : List Char) (f : Flags) : List Char →
    Option (Flags × List Char × List Char)
  | [] => none
  | c :: rest =>
      if c = ':' ∨ c = ')' then
        if seen.head? = some '-' then none else some (f, seen, c :: rest)
      else if seen.contains c then none
      else if c = '-' then readFlags false (c :: seen) f rest
      else
        match f.set? c on with
        | none => none
        | some f => readFlags on (c :: seen) f rest

/-! ## Blanks, numbers, names -/

/-- Drops blanks and comments. -/
def dropVerbose (inComment : Bool) : List Char → List Char
  | [] => []
  | c :: rest =>
      if inComment then dropVerbose (c != '\n') rest
      else if c = '#' then dropVerbose true rest
      else if Chars.isBlank c then dropVerbose false rest
      else c :: rest

/-- Passes over blanks and comments if the flags say so. -/
def skip (f : Flags) (cs : List Char) : List Char :=
  if f.verbose then dropVerbose false cs else cs

/-- Takes digits, with what may be passed over between them. -/
def takeDigits (f : Flags) : Nat → List Char → List Char × List Char
  | 0, cs => ([], cs)
  | n + 1, cs =>
      match cs with
      | c :: rest =>
          if c.isDigit then
            let (ds, rest) := takeDigits f n (skip f rest)
            (c :: ds, rest)
          else ([], cs)
      | [] => ([], [])

/-- Reads a decimal number with blanks around it; the outer answer is missing if it is too large. -/
def readDecimal (f : Flags) (cs : List Char) : Option (Option Nat × List Char) :=
  let cs := Chars.trimStart cs
  let (ds, rest) := takeDigits f cs.length cs
  let rest := skip f (Chars.trimStart rest)
  if ds.isEmpty then some (none, rest)
  else
    let n := Chars.digitsValue ds
    if n < twoTo 32 then some (some n, rest) else none

/-- The bounds of a counted repetition, up to its closing brace, which goes. -/
def readBounds (f : Flags) (cs : List Char) : Option (Nat × Option Nat × List Char) := do
  let (least, cs) ← readDecimal f (skip f cs)
  match cs with
  | ',' :: rest =>
      match skip f rest with
      | '\x7d' :: rest => do
          let least ← least
          some (least, none, rest)
      | rest => do
          let least ← least
          let (most, rest) ← readDecimal f rest
          let most ← most
          match rest with
          | '\x7d' :: rest => if least ≤ most then some (least, some most, rest) else none
          | _ => none
  | '\x7d' :: rest => do
      let least ← least
      some (least, some least, rest)
  | _ => none

def isNameChar (first : Bool) (c : Char) : Bool :=
  c == '_' || (!first && (c == '.' || c == '[' || c == ']')) ||
    ((property? "alphabetic").getD CharSet.empty).mem c ||
    (!first && ((category? "n").getD CharSet.empty).mem c)

/-- Reads the name of a group up to the closing angle bracket, which goes. -/
def readName (cs : List Char) : Option (List Char × List Char) :=
  let name := cs.takeWhile (· != '>')
  match name, cs.drop name.length with
  | c :: more, '>' :: rest =>
      if isNameChar true c && more.all (isNameChar false) then some (c :: more, rest) else none
  | _, _ => none

/-! ## Escapes -/

/-- What an escape or a single character stands for. -/
inductive Atom where
  /-- A character; `byte` when it was written as a byte of two digits. -/
  | literal (c : Char) (byte : Bool)
  | set (s : CharSet)
  | look (l : Look)
deriving DecidableEq, Repr

def isHexDigit (c : Char) : Bool :=
  c.isDigit || ('a' ≤ c && c ≤ 'f') || ('A' ≤ c && c ≤ 'F')

def hexValue (ds : List Char) : Nat :=
  ds.foldl (fun n c => 16 * n + CharSet.hexDigit c.toUpper) 0

/-- The character of a number, if it is one. -/
def scalar? (n : Nat) : Option Char :=
  if h : n.isValidChar then some (Char.ofNatAux n h) else none

/-- Takes a fixed number of digits in base sixteen. -/
def takeHex (f : Flags) : Nat → List Char → Option (List Char × List Char)
  | 0, cs => some ([], cs)
  | n + 1, c :: rest =>
      if isHexDigit c then (takeHex f n (skip f rest)).map fun x => (c :: x.1, x.2) else none
  | _ + 1, [] => none

/-- Takes digits in base sixteen up to a closing brace, which goes. -/
def takeHexBraced (f : Flags) : Nat → List Char → Option (List Char × List Char)
  | 0, _ => none
  | n + 1, cs =>
      match skip f cs with
      | '\x7d' :: rest => some ([], skip f rest)
      | c :: rest =>
          if isHexDigit c then (takeHexBraced f n rest).map fun x => (c :: x.1, x.2) else none
      | [] => none

def readHex (f : Flags) (length : Nat) (cs : List Char) : Option (Atom × List Char) := do
  match skip f cs with
  | '\x7b' :: rest =>
      let (ds, rest) ← takeHexBraced f (rest.length + 1) rest
      if ds.isEmpty then none
      let c ← scalar? (hexValue ds)
      some (.literal c false, rest)
  | cs =>
      let (ds, rest) ← takeHex f length cs
      let c ← scalar? (hexValue ds)
      some (.literal c (length == 2), rest)

def takeBraced (f : Flags) : Nat → List Char → Option (List Char × List Char)
  | 0, _ => none
  | n + 1, cs =>
      match skip f cs with
      | '\x7d' :: rest => some ([], rest)
      | c :: rest => (takeBraced f n rest).map fun x => (c :: x.1, x.2)
      | [] => none

/-- Adds letter cases and negates, as flags and sign ask; ASCII sets have no complement. -/
def finishSet (f : Flags) (negated : Bool) (s : CharSet) : Option CharSet :=
  let s := if f.ignoreCase then foldCase f.unicode s else s
  if negated then (if f.unicode then some s.complement else none) else some s

def readNamed (f : Flags) (negated : Bool) (cs : List Char) : Option (Atom × List Char) := do
  let (name, rest) ← match skip f cs with
    | '\x7b' :: rest => takeBraced f (rest.length + 1) rest
    | '\\' :: _ => none
    | c :: rest => some ([c], skip f rest)
    | [] => none
  if !f.unicode then none
  let base ←
    match skip f cs with
    | '\x7b' :: _ => named? name
    | _ => category? (normalName name)
  let s ← finishSet f negated base
  some (.set s, rest)

/-- A class of characters with a letter of its own. -/
def letterSet (f : Flags) (negated : Bool) (s : CharSet) (rest : List Char) :
    Option (Atom × List Char) :=
  if !negated then some (.set s, rest)
  else if f.unicode then some (.set s.complement, rest)
  else none

/-- Reads the condition named in braces behind a `b`, if there is one. -/
def readBoundary (f : Flags) (cs : List Char) : Option (Atom × List Char) :=
  let word := wordChars f.unicode
  let isLetter := fun c : Char => c.isAlpha || c == '-'
  match cs with
  | '\x7b' :: rest =>
      match skip f rest with
      | [] => none
      | c :: _ =>
          if !isLetter c then some (.look (.boundary word), cs)
          else
            match takeBraced f (rest.length + 1) rest with
            | none => none
            | some (name, rest) =>
                if name = "start".toList then some (.look (.wordStart word), rest)
                else if name = "end".toList then some (.look (.wordEnd word), rest)
                else if name = "start-half".toList then some (.look (.wordStartHalf word), rest)
                else if name = "end-half".toList then some (.look (.wordEndHalf word), rest)
                else none
  | _ => some (.look (.boundary word), cs)

def isEscapable (c : Char) : Bool :=
  c.toNat < 128 && !c.isAlphanum && c != '<' && c != '>'

/-- Reads what follows a backslash. -/
def readEscape (f : Flags) : List Char → Option (Atom × List Char)
  | [] => none
  | c :: rest =>
      let plain := fun n : Nat => some (Atom.literal (Char.ofNat n) false, rest)
      let word := wordChars f.unicode
      match c with
      | 'x' => readHex f 2 rest
      | 'u' => readHex f 4 rest
      | 'U' => readHex f 8 rest
      | 'p' => readNamed f false rest
      | 'P' => readNamed f true rest
      | 'd' => letterSet f false (digitChars f.unicode) rest
      | 'D' => letterSet f true (digitChars f.unicode) rest
      | 's' => letterSet f false (blankChars f.unicode) rest
      | 'S' => letterSet f true (blankChars f.unicode) rest
      | 'w' => letterSet f false word rest
      | 'W' => letterSet f true word rest
      | 'a' => plain 0x07
      | 'f' => plain 0x0C
      | 't' => plain 0x09
      | 'n' => plain 0x0A
      | 'r' => plain 0x0D
      | 'v' => plain 0x0B
      | 'A' => some (.look .textStart, rest)
      | 'z' => some (.look .textEnd, rest)
      | 'b' => readBoundary f rest
      | 'B' => some (.look (.notBoundary word), rest)
      | '<' => some (.look (.wordStart word), rest)
      | '>' => some (.look (.wordEnd word), rest)
      | c => if isEscapable c then some (.literal c false, rest) else none

/-! ## Classes in brackets -/

inductive SetOp where
  | inter
  | diff
  | symmDiff
deriving DecidableEq, Repr

/-- Applies an operation, with letter cases added first if the flags say so. -/
def SetOp.apply (f : Flags) (a b : CharSet) (op : SetOp) : CharSet :=
  let fold := fun s => if f.ignoreCase then foldCase f.unicode s else s
  match op with
  | .inter => (fold a).inter (fold b)
  | .diff => (fold a).diff (fold b)
  | .symmDiff => (fold a).symmDiff (fold b)

structure SetState where
  /-- The left side of an operation that waits for its right side. -/
  left : Option (SetOp × CharSet)
  /-- The union of the items read since. -/
  items : CharSet
  count : Nat
  /-- The deepest nesting among the items. -/
  depth : Nat
  /-- The nesting of the left side. -/
  leftDepth : Nat
deriving Repr

namespace SetState

def start : SetState := ⟨none, CharSet.empty, 0, 0, 0⟩

def add (st : SetState) (s : CharSet) (depth : Nat) : SetState :=
  { st with items := st.items.union s, count := st.count + 1, depth := max st.depth depth }

/-- The nesting of the items as one. -/
def itemsDepth (st : SetState) : Nat :=
  if st.count ≤ 1 then st.depth else st.depth + 1

def value (f : Flags) (st : SetState) : CharSet :=
  match st.left with
  | none => st.items
  | some (op, l) => op.apply f l st.items

def valueDepth (st : SetState) : Nat :=
  match st.left with
  | none => st.itemsDepth
  | some _ => max st.leftDepth st.itemsDepth + 1

def operate (f : Flags) (op : SetOp) (st : SetState) : SetState :=
  ⟨some (op, st.value f), CharSet.empty, 0, 0, st.valueDepth⟩

end SetState

def readSetAtom (f : Flags) : List Char → Option (Atom × List Char)
  | [] => none
  | '\\' :: rest => readEscape f rest
  | c :: rest => some (.literal c false, rest)

/-- The number of a literal, which has to be ASCII where classes are of bytes. -/
def Atom.number? (f : Flags) : Atom → Option Nat
  | .literal c _ => if f.unicode || c.toNat < 128 then some c.toNat else none
  | _ => none

def Atom.set? (f : Flags) : Atom → Option CharSet
  | .set s => some s
  | .look _ => none
  | a => (a.number? f).map CharSet.single

/-- Reads a character, an escape or a range. -/
def readSetItem (f : Flags) (cs : List Char) : Option (CharSet × List Char) := do
  let (first, rest) ← readSetAtom f cs
  match skip f rest with
  | [] => none
  | '-' :: more =>
      match skip f more with
      | [] => none
      | ']' :: _ => do
          let s ← first.set? f
          some (s, skip f rest)
      | '-' :: _ => do
          let s ← first.set? f
          some (s, skip f rest)
      | more => do
          let (last, rest) ← readSetAtom f more
          let a ← first.number? f
          let b ← last.number? f
          if a ≤ b then some (CharSet.ofRanges [(a, b)], rest) else none
  | rest => do
      let s ← first.set? f
      some (s, rest)

/-- Reads an ASCII class between a bracket with a colon and a colon with a bracket. -/
def readAsciiClass (cs : List Char) : Option (Bool × CharSet × List Char) :=
  match cs with
  | '[' :: ':' :: rest =>
      let (negated, rest) :=
        match rest with
        | '^' :: rest => (true, rest)
        | rest => (false, rest)
      let name := rest.takeWhile (· != ':')
      match rest.drop name.length with
      | ':' :: ']' :: rest => (asciiClass? name).map fun s => (negated, s, rest)
      | _ => none
  | _ => none

/-- Reads the hyphens at the front of a class. -/
def readHyphens (f : Flags) : Nat → SetState → List Char → SetState × List Char
  | 0, st, cs => (st, cs)
  | n + 1, st, cs =>
      match cs with
      | '-' :: rest => readHyphens f n (st.add (CharSet.single 0x2D) 0) (skip f rest)
      | cs => (st, cs)

/-- Reads what stands at the front of a class, behind its bracket. -/
def openSet (f : Flags) (cs : List Char) : Option (Bool × SetState × List Char) :=
  let cs := skip f cs
  let (negated, cs) :=
    match cs with
    | '^' :: rest => (true, skip f rest)
    | cs => (false, cs)
  let (st, cs) := readHyphens f cs.length SetState.start cs
  match cs with
  | [] => none
  | ']' :: rest =>
      if st.count = 0 then
        let rest := skip f rest
        if rest.isEmpty then none else some (negated, st.add (CharSet.single 0x5D) 0, rest)
      else some (negated, st, cs)
  | cs => some (negated, st, cs)

/-- Reads the rest of a class up to its closing bracket; gives the set and its nesting. -/
def readSet (f : Flags) (negated : Bool) : Nat → SetState → List Char →
    Option (CharSet × Nat × List Char)
  | 0, _, _ => none
  | fuel + 1, st, cs =>
      match skip f cs with
      | [] => none
      | ']' :: rest =>
          (finishSet f negated (st.value f)).map fun s => (s, st.valueDepth + 1, rest)
      | '&' :: '&' :: rest => readSet f negated fuel (st.operate f .inter) rest
      | '-' :: '-' :: rest => readSet f negated fuel (st.operate f .diff) rest
      | '~' :: '~' :: rest => readSet f negated fuel (st.operate f .symmDiff) rest
      | '[' :: rest =>
          match readAsciiClass ('[' :: rest) with
          | some (negatedClass, s, rest) =>
              match finishSet f negatedClass s with
              | none => none
              | some s => readSet f negated fuel (st.add s 0) rest
          | none =>
              match openSet f rest with
              | none => none
              | some (negatedInner, inner, rest) =>
                  match readSet f negatedInner fuel inner rest with
                  | none => none
                  | some (s, depth, rest) => readSet f negated fuel (st.add s depth) rest
      | cs =>
          match readSetItem f cs with
          | none => none
          | some (s, rest) => readSet f negated fuel (st.add s 0) rest

/-! ## Expressions -/

/-- An expression and how deep its parts are nested. -/
structure Piece where
  node : Node
  depth : Nat
deriving Repr

/-- The items of a sequence, last first; a change of flags is an item without an expression. -/
abbrev Items := List (Option Piece)

def sequenceNodes : List Node → Node
  | [] => .empty
  | [n] => n
  | n :: rest => .seq n (sequenceNodes rest)

def sequence (items : Items) : Piece :=
  match items with
  | [] => ⟨.empty, 0⟩
  | [none] => ⟨.empty, 0⟩
  | [some p] => p
  | items =>
      let pieces := items.reverse.filterMap id
      ⟨sequenceNodes (pieces.map (·.node)),
        (pieces.map (·.depth)).foldl max 0 + 1⟩

def alternatives (branches : List Piece) (last : Piece) : Piece :=
  match branches with
  | [] => last
  | branches =>
      ⟨branches.foldl (fun n b => .either b.node n) last.node,
        (branches.map (·.depth)).foldl max last.depth + 1⟩

def literalNode (f : Flags) (c : Char) (byte : Bool) : Option Node :=
  if !f.unicode && byte && 128 ≤ c.toNat then none
  else if f.ignoreCase && (f.unicode || c.toNat < 128) then
    some (.one (foldCase f.unicode (CharSet.single c.toNat)))
  else some (.one (CharSet.single c.toNat))

def Atom.node? (f : Flags) : Atom → Option Node
  | .literal c byte => literalNode f c byte
  | .set s => some (.one s)
  | .look l => some (.look l)

def dotNode (f : Flags) : Option Node :=
  if !f.unicode then none
  else if f.dotAll then some (.one CharSet.all)
  else if f.returns then some (.one (CharSet.ofRanges [(0x0A, 0x0A), (0x0D, 0x0D)]).complement)
  else some (.one (CharSet.single 0x0A).complement)

def startLook (f : Flags) : Look :=
  if !f.multiLine then .textStart else if f.returns then .lineStartReturn else .lineStart

def endLook (f : Flags) : Look :=
  if !f.multiLine then .textEnd else if f.returns then .lineEndReturn else .lineEnd

inductive Opening where
  /-- A change of flags for the rest of the group around it. -/
  | flags (f : Flags)
  /-- A group with flags of its own, and the name it may have. -/
  | group (f : Flags) (name : Option (List Char)) (captures : Bool)

def readOpening (f : Flags) (cs : List Char) : Option (Opening × List Char) :=
  match skip f cs with
  | '?' :: '=' :: _ => none
  | '?' :: '!' :: _ => none
  | '?' :: '<' :: '=' :: _ => none
  | '?' :: '<' :: '!' :: _ => none
  | '?' :: 'P' :: '<' :: rest => (readName rest).map fun (n, rest) => (.group f (some n) true, rest)
  | '?' :: '<' :: rest => (readName rest).map fun (n, rest) => (.group f (some n) true, rest)
  | '?' :: rest =>
      match readFlags true [] f rest with
      | some (_, [], ')' :: _) => none
      | some (f, _, ')' :: rest) => some (.flags f, rest)
      | some (f, _, ':' :: rest) => some (.group f none false, rest)
      | _ => none
  | rest => some (.group f none true, rest)

/-- Drops the mark of a lazy repetition. -/
def dropLazy : List Char → List Char
  | '?' :: rest => rest
  | cs => cs

/-- Repeats the last item of a sequence; there has to be one. -/
def repeatLast (items : Items) (least : Nat) (most : Option Nat) : Option Items :=
  match items with
  | some p :: before => some (some ⟨.iterate p.node least most, p.depth + 1⟩ :: before)
  | _ => none

structure ReadResult where
  piece : Piece
  names : List (List Char)
  rest : List Char

/-- Reads up to a closing parenthesis, which stays, or to the end. -/
def readExpression : Nat → Flags → List (List Char) → List Piece → Items → List Char →
    Option ReadResult
  | 0, _, _, _, _, _ => none
  | fuel + 1, f, names, branches, items, cs =>
      let push := fun (n : Option Node) (rest : List Char) =>
        match n with
        | none => none
        | some n => readExpression fuel f names branches (some ⟨n, 0⟩ :: items) rest
      let again := fun (least : Nat) (most : Option Nat) (rest : List Char) =>
        match repeatLast items least most with
        | none => none
        | some items => readExpression fuel f names branches items (dropLazy rest)
      match skip f cs with
      | [] => some ⟨alternatives branches (sequence items), names, []⟩
      | ')' :: rest => some ⟨alternatives branches (sequence items), names, ')' :: rest⟩
      | '|' :: rest => readExpression fuel f names (sequence items :: branches) [] rest
      | '(' :: rest =>
          match readOpening f rest with
          | none => none
          | some (.flags f, rest) => readExpression fuel f names branches (none :: items) rest
          | some (.group inner name captures, rest) =>
              if (name.map names.contains).getD false then none
              else
                match readExpression fuel inner (name.toList ++ names) [] [] rest with
                | some ⟨p, names, ')' :: rest⟩ =>
                    let node := if captures then .group p.node else p.node
                    readExpression fuel f names branches (some ⟨node, p.depth + 1⟩ :: items) rest
                | _ => none
      | '[' :: rest =>
          match openSet f rest with
          | none => none
          | some (negated, st, rest) =>
              match readSet f negated (rest.length + 1) st rest with
              | none => none
              | some (s, depth, rest) =>
                  readExpression fuel f names branches (some ⟨.one s, depth⟩ :: items) rest
      | '?' :: rest => again 0 (some 1) rest
      | '*' :: rest => again 0 none rest
      | '+' :: rest => again 1 none rest
      | '\x7b' :: rest =>
          match readBounds f rest with
          | none => none
          | some (least, most, rest) => again least most (skip f rest)
      | '.' :: rest => push (dotNode f) rest
      | '^' :: rest => push (some (.look (startLook f))) rest
      | '$' :: rest => push (some (.look (endLook f))) rest
      | '\\' :: rest =>
          match readEscape f rest with
          | none => none
          | some (a, rest) => push (a.node? f) rest
      | c :: rest => push (literalNode f c false) rest

/-- The deepest nesting that is read. -/
def depthLimit : Nat := 250

/-- The size in bytes of the largest machine. -/
def sizeLimit : Nat := 10 * twoTo 20

inductive Fault where
  | malformed
  /-- It is a pattern whose machine would be too large. -/
  | tooLarge
deriving DecidableEq, Repr

def parse (s : String) : Except Fault Pattern :=
  let cs := s.toList
  match readExpression (cs.length + 1) Flags.usual [] [] [] cs with
  | some ⟨p, _, []⟩ =>
      -- The nesting is judged while reading, the size only of what could be read.
      if depthLimit < p.depth then .error .malformed
      else if sizeLimit < p.node.size then .error .tooLarge
      else .ok ⟨s, p.node⟩
  | _ => .error .malformed

end Pattern
end Trainer
