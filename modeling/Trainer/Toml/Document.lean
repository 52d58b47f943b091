import Trainer.Toml.Quoted
import Trainer.Toml.Scalar

/-!
# TOML documents

`Document.parse?` reads a text as a table, or refuses it.  A document is a sequence of lines, each
blank, a header, or an assignment; values in brackets and braces may run over several lines.
-/

namespace Trainer
namespace Toml

/-! ## Blanks and comments -/

def dropBlanks (cs : List Char) : List Char :=
  cs.dropWhile fun c => c == ' ' || c == '\t'

/-- Drops a comment up to the end of its line; control characters are refused. -/
def dropComment : List Char → Option (List Char)
  | [] => some []
  | c :: rest =>
      if atNewline (c :: rest) then some (c :: rest)
      else if isPlain c then dropComment rest
      else none

/-- Takes the end of a line, before which a comment may stand. -/
def lineEnd (cs : List Char) : Option (List Char) :=
  let cs := dropBlanks cs
  let after := if cs.head? = some '#' then dropComment cs else some cs
  match after with
  | some [] => some []
  | some rest => if atNewline rest then some (dropNewline rest) else none
  | none => none

/-- Drops blanks, comments and newlines between the items of an array or an inline table. -/
def dropSpace : Nat → List Char → Option (List Char)
  | 0, cs => some cs
  | fuel + 1, cs =>
      match dropBlanks cs with
      | '#' :: rest =>
          match dropComment rest with
          | some rest => dropSpace fuel rest
          | none => none
      | rest => if atNewline rest then dropSpace fuel (dropNewline rest) else some rest

/-! ## Keys -/

/-- Reads one part of a key: bare, or a quoted text on one line. -/
def keyPart (cs : List Char) : Option (String × List Char) :=
  match cs with
  | '"' :: rest => (readBasic 0 rest).map fun (k, rest) => (String.ofList k, rest)
  | '\'' :: rest => (readLiteral rest).map fun (k, rest) => (String.ofList k, rest)
  | _ =>
      let k := cs.takeWhile isBare
      if k.isEmpty then none else some (String.ofList k, cs.drop k.length)

/-- Reads a key of one or more parts between dots: the parts before the last one, and the last. -/
def dottedKey : Nat → List Char → Option (List String × String × List Char)
  | 0, _ => none
  | fuel + 1, cs =>
      match keyPart (dropBlanks cs) with
      | none => none
      | some (k, rest) =>
          match dropBlanks rest with
          | '.' :: rest =>
              (dottedKey fuel rest).map fun (path, last, rest) => (k :: path, last, rest)
          | rest => some ([], k, rest)

/-- The most parts a key may have. -/
def keyLimit : Nat := 80

/-- Reads a key, the equals sign after it, and the blanks that follow. -/
def keyEquals (cs : List Char) : Option (List String × String × List Char) :=
  match dottedKey keyLimit cs with
  | some (path, last, '=' :: rest) => some (path, last, dropBlanks rest)
  | _ => none

/-! ## Values -/

/-- How deep brackets and braces may be nested. -/
def depthLimit : Nat := 80

/-- What the reader of a nested value is about to read. -/
inductive Goal where
  | value
  /-- Another item of an array, or its end; `items` are read, the last one first. -/
  | item (items : List Value)
  /-- What follows an item of an array. -/
  | afterItem (items : List Value)
  /-- Another entry of an inline table, or its end. -/
  | entry (t : Table)
  /-- What follows an entry of an inline table. -/
  | afterEntry (t : Table)

/--
Reads a value, or the rest of an array or of an inline table.  `depth` counts the brackets and
braces that are open; `fuel` bounds the number of steps.
-/
def readGoal : Nat → Nat → Goal → List Char → Option (Value × List Char)
  | 0, _, _, _ => none
  | fuel + 1, depth, .value, cs =>
      match cs with
      | '[' :: rest =>
          if depth < depthLimit then readGoal fuel (depth + 1) (.item []) rest else none
      | '\x7b' :: rest =>
          if depth < depthLimit then readGoal fuel (depth + 1) (.entry ⟨.inline, []⟩) rest
          else none
      | c :: _ =>
          if c = '"' ∨ c = '\'' then
            (readString cs).map fun (s, rest) => (.string (String.ofList s), rest)
          else
            let (t, rest) := token cs
            (scalar? t).map fun v => (v, rest)
      | [] => none
  | fuel + 1, depth, .item items, cs =>
      match dropSpace cs.length cs with
      | none => none
      | some (']' :: rest) => some (.array items.reverse, rest)
      | some rest =>
          match readGoal fuel depth .value rest with
          | some (v, rest) => readGoal fuel depth (.afterItem (v :: items)) rest
          | none => none
  -- The end may follow a comma, so behind one the next goal is an item or the end.
  | fuel + 1, depth, .afterItem items, cs =>
      match dropSpace cs.length cs with
      | some (',' :: rest) => readGoal fuel depth (.item items) rest
      | some (']' :: rest) => some (.array items.reverse, rest)
      | _ => none
  | fuel + 1, depth, .entry t, cs =>
      match dropSpace cs.length cs with
      | none => none
      | some ('\x7d' :: rest) => some (t.toValue, rest)
      | some rest =>
          match keyEquals rest with
          | none => none
          | some (path, key, rest) =>
              match readGoal fuel depth .value rest with
              | none => none
              | some (v, rest) =>
                  match t.assign path key v with
                  | some t => readGoal fuel depth (.afterEntry t) rest
                  | none => none
  | fuel + 1, depth, .afterEntry t, cs =>
      match dropSpace cs.length cs with
      | some (',' :: rest) => readGoal fuel depth (.entry t) rest
      | some ('\x7d' :: rest) => some (t.toValue, rest)
      | _ => none

def readValue (cs : List Char) : Option (Value × List Char) :=
  readGoal (2 * cs.length + 2) 0 .value cs

/-! ## Lines -/

/-- The document so far: its root table and how to reach the table that is open. -/
structure State where
  root : Table
  /-- The parts of the open header; empty for the root. -/
  opened : List String

/-- Reads one line and applies it. -/
def readLine (s : State) (cs : List Char) : Option (State × List Char) :=
  match dropBlanks cs with
  -- Two brackets open another table of a list.
  | '[' :: '[' :: rest =>
      match dottedKey keyLimit rest with
      | some (path, key, ']' :: ']' :: rest) =>
          match s.root.openRepeated path key, lineEnd rest with
          | some root, some rest => some (⟨root, path ++ [key]⟩, rest)
          | _, _ => none
      | _ => none
  -- One bracket opens a table that no header has opened before.
  | '[' :: rest =>
      match dottedKey keyLimit rest with
      | some (path, key, ']' :: rest) =>
          match s.root.openHeader path key, lineEnd rest with
          | some root, some rest => some (⟨root, path ++ [key]⟩, rest)
          | _, _ => none
      | _ => none
  | [] => some (s, [])
  -- Everything else is a blank line or an assignment in the open table.
  | c :: rest =>
      if c = '#' ∨ atNewline (c :: rest) then (lineEnd (c :: rest)).map fun rest => (s, rest)
      else
        match keyEquals (c :: rest) with
        | none => none
        | some (path, key, rest) =>
            match readValue rest with
            | none => none
            | some (v, rest) =>
                match s.root.modify false (fun t => t.assign path key v) s.opened, lineEnd rest with
                | some root, some rest => some (⟨root, s.opened⟩, rest)
                | _, _ => none

/-- Reads lines up to the end; `fuel` bounds their number. -/
def readLines : Nat → State → List Char → Option Table
  | _, s, [] => some s.root
  | 0, _, _ :: _ => none
  | fuel + 1, s, c :: cs =>
      match readLine s (c :: cs) with
      | some (s, rest) => readLines fuel s rest
      | none => none

/-- Drops a byte order mark in front. -/
def dropMark : List Char → List Char
  | '\ufeff' :: rest => rest
  | cs => cs

def parseChars (cs : List Char) : Option Table :=
  let cs := dropMark cs
  readLines (cs.length + 1) ⟨⟨.header, []⟩, []⟩ cs

def parse? (s : String) : Option Table :=
  parseChars s.toList

end Toml
end Trainer
